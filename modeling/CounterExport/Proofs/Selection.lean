import CounterExport.Collector.Selection
import Mathlib.Data.List.Nodup

/-!
# Selection: what `resolve` gives, and why the listing agrees with it

`Selection.resolve` and `Selection.isEnabled` read the same two lists of names in two unrelated
ways. `resolve` maps every name through `CollectorId.lookup`, refusing the first unknown one, and
then walks the enabled collectors keeping those that are neither disabled nor already kept.
`isEnabled` asks of one collector whether some enabled name looks it up and no disabled name
does, ignoring names that look up nothing.

The two meet in `names_iff_mem`: once every name of a list resolves, the list names a collector
exactly when the collector is among the resolved ones. With `mem_activeIds`, which says what the
keep-first walk keeps, this gives `isEnabled_iff_mem`, and so the listing marks as enabled
exactly the collectors a scrape of the same selection runs (`listing_marks_active`), in catalog
order rather than run order.
-/

set_option autoImplicit false

namespace CounterExport
namespace Collector

/-! ## Resolving names -/

theorem resolveNames_snd_cons (s : String) (rest : List String) :
    (resolveNames (s :: rest)).2 =
      match CollectorId.lookup s with
      | none => .error (.unknownCollector s)
      | some (id, _) => (resolveNames rest).2.map (id :: ·) := by
  cases hs : CollectorId.lookup s with
  | none => simp [resolveNames, hs]
  | some p =>
    obtain ⟨id, legacy⟩ := p
    simp [resolveNames, hs]

theorem names_iff_mem {l : List String} {ids : List CollectorId}
    (h : (resolveNames l).2 = .ok ids) (c : CollectorId) :
    Selection.names l c = true ↔ c ∈ ids := by
  induction l generalizing ids with
  | nil =>
    simp only [resolveNames, Except.ok.injEq] at h
    subst h
    simp [Selection.names]
  | cons s rest ih =>
    rw [resolveNames_snd_cons] at h
    cases hs : CollectorId.lookup s with
    | none => simp [hs] at h
    | some p =>
      obtain ⟨id, legacy⟩ := p
      simp only [hs] at h
      cases hr : (resolveNames rest).2 with
      | error e => simp [hr, Except.map] at h
      | ok ids' =>
        simp only [hr, Except.map, Except.ok.injEq] at h
        subst h
        have hrest := ih hr
        simp only [Selection.names, List.any_cons, hs, Option.map_some, Bool.or_eq_true,
          beq_iff_eq, Option.some.injEq, List.mem_cons] at hrest ⊢
        rw [hrest, eq_comm]

/-- The collector a name looks up, whichever spelling it uses. -/
def lookupId (s : String) : Option CollectorId := (CollectorId.lookup s).map Prod.fst

/-- The first name of a list that looks up no collector. -/
def firstUnknown (l : List String) : Option String :=
  l.find? fun s => (CollectorId.lookup s).isNone

/-- The collectors a list of names looks up, in order; unknown names give none. -/
def lookupIds (l : List String) : List CollectorId := l.filterMap lookupId

theorem CollectorId.lookup_name (c : CollectorId) : CollectorId.lookup c.name = some (c, false) := by
  cases c <;> decide

theorem lookupId_eq_some {s : String} {c : CollectorId} :
    lookupId s = some c ↔ s = c.name ∨ s = legacyAutoDiscover ∧ c = .autoDiscover := by
  by_cases hs : s = legacyAutoDiscover
  · subst hs
    -- no canonical id is spelled like the alias
    have hname : legacyAutoDiscover ≠ c.name := by cases c <;> decide
    simp [lookupId, CollectorId.lookup, hname, eq_comm]
  · constructor
    · intro h
      have hfind : CollectorId.all.find? (·.name == s) = some c := by
        simpa [lookupId, CollectorId.lookup, hs, Option.map_map, Function.comp_def] using h
      have hname := List.find?_some hfind
      simp only [beq_iff_eq] at hname
      exact .inl hname.symm
    · rintro (rfl | ⟨rfl, -⟩)
      · simp [lookupId, CollectorId.lookup_name]
      · exact absurd rfl hs

/-- What resolving a list of names gives: the first unknown name, or else every name's
    collector in order. -/
theorem resolveNames_snd_eq (l : List String) :
    (resolveNames l).2 =
      match firstUnknown l with
      | some x => .error (.unknownCollector x)
      | none => .ok (lookupIds l) := by
  induction l with
  | nil => rfl
  | cons s rest ih =>
    rw [resolveNames_snd_cons]
    cases hs : CollectorId.lookup s with
    | none => simp [firstUnknown, hs]
    | some p =>
      obtain ⟨id, legacy⟩ := p
      -- a known name is skipped by the search and contributes its collector
      have hfirst : firstUnknown (s :: rest) = firstUnknown rest := by simp [firstUnknown, hs]
      have hids : lookupIds (s :: rest) = id :: lookupIds rest := by
        simp [lookupIds, lookupId, hs]
      simp only [hfirst, hids, ih]
      cases firstUnknown rest <;> rfl

/-! ## The keep-first walk -/

/-- What the walk keeps: what it had kept, and the enabled collectors that are not disabled. -/
theorem mem_activeIds {D : List CollectorId} (c : CollectorId) :
    ∀ (acc E : List CollectorId), c ∈ activeIds D acc E ↔ c ∈ acc ∨ (c ∈ E ∧ c ∉ D)
  | acc, [] => by simp [activeIds]
  | acc, id :: rest => by
    by_cases hskip : id ∈ D ∨ id ∈ acc
    · rw [activeIds, if_pos hskip, mem_activeIds c acc rest, List.mem_cons]
      -- a skipped collector is disabled or kept already, so it adds nothing
      constructor
      · rintro (hacc | ⟨hrest, hD⟩)
        · exact .inl hacc
        · exact .inr ⟨.inr hrest, hD⟩
      · rintro (hacc | ⟨rfl | hrest, hD⟩)
        · exact .inl hacc
        · exact hskip.elim (fun h => absurd h hD) .inl
        · exact .inr ⟨hrest, hD⟩
    · rw [activeIds, if_neg hskip, mem_activeIds c (id :: acc) rest, List.mem_cons,
        List.mem_cons]
      have hD : id ∉ D := fun h => hskip (.inl h)
      constructor
      · rintro ((rfl | hacc) | ⟨hrest, hD'⟩)
        · exact .inr ⟨.inl rfl, hD⟩
        · exact .inl hacc
        · exact .inr ⟨.inr hrest, hD'⟩
      · rintro (hacc | ⟨rfl | hrest, hD'⟩)
        · exact .inl (.inr hacc)
        · exact .inl (.inl rfl)
        · exact .inr ⟨hrest, hD'⟩

/-- The walk never keeps a collector twice. -/
theorem activeIds_nodup {D : List CollectorId} :
    ∀ {acc : List CollectorId} (E : List CollectorId), acc.Nodup → (activeIds D acc E).Nodup
  | acc, [], h => by
    rw [activeIds]
    exact List.nodup_reverse.2 h
  | acc, id :: rest, h => by
    by_cases hskip : id ∈ D ∨ id ∈ acc
    · rw [activeIds, if_pos hskip]
      exact activeIds_nodup rest h
    · rw [activeIds, if_neg hskip]
      exact activeIds_nodup rest (List.nodup_cons.2 ⟨fun hm => hskip (.inr hm), h⟩)

/-- The walk keeps the first occurrence of each enabled collector that is neither disabled nor
    kept already: `eraseDups` of the enabled collectors that pass. -/
theorem activeIds_eq {D : List CollectorId} :
    ∀ (acc E : List CollectorId),
      activeIds D acc E = acc.reverse ++ (E.filter fun c => c ∉ D ∧ c ∉ acc).eraseDups
  | acc, [] => by simp [activeIds]
  | acc, id :: rest => by
    by_cases hskip : id ∈ D ∨ id ∈ acc
    · have hout : ¬(id ∉ D ∧ id ∉ acc) := fun h => hskip.elim h.1 h.2
      rw [activeIds, if_pos hskip, activeIds_eq acc rest, List.filter_cons_of_neg (by simpa using hout)]
    · have hin : id ∉ D ∧ id ∉ acc := not_or.1 hskip
      rw [activeIds, if_neg hskip, activeIds_eq (id :: acc) rest,
        List.filter_cons_of_pos (by simpa using hin), List.eraseDups_cons, List.filter_filter,
        List.reverse_cons, List.append_assoc, List.singleton_append]
      -- keeping `id` adds it to the accumulator, which later repeats are then checked against
      congr 3
      apply List.filter_congr
      intro c _
      by_cases hc : c = id <;> simp [hc, and_comm]

theorem eraseDups_of_nodup {α : Type} [BEq α] [LawfulBEq α] : ∀ {l : List α}, l.Nodup →
    l.eraseDups = l
  | [], _ => rfl
  | a :: as, h => by
    obtain ⟨ha, has⟩ := List.nodup_cons.1 h
    have hkeep : (as.filter fun b => !b == a) = as :=
      List.filter_eq_self.2 fun b hb => by simpa using ne_of_mem_of_not_mem hb ha
    rw [List.eraseDups_cons, hkeep, eraseDups_of_nodup has]

namespace Selection

theorem resolve_snd_eq_ok {sel : Selection} {active : List CollectorId} :
    sel.resolve.2 = .ok active ↔ ∃ E D, (resolveNames sel.enabled).2 = .ok E ∧
      (resolveNames sel.disabled).2 = .ok D ∧ activeIds D [] E = active := by
  unfold resolve
  rcases resolveNames sel.enabled with ⟨e1, _ | E⟩ <;>
    rcases resolveNames sel.disabled with ⟨e2, _ | D⟩ <;> simp

theorem resolve_nodup {sel : Selection} {active : List CollectorId}
    (h : sel.resolve.2 = .ok active) : active.Nodup := by
  obtain ⟨E, D, -, -, rfl⟩ := resolve_snd_eq_ok.1 h
  exact activeIds_nodup E List.nodup_nil

/-- Once a selection resolves, `isEnabled` recomputes from the raw names exactly the
    membership of the active list. -/
theorem isEnabled_iff_mem {sel : Selection} {active : List CollectorId}
    (h : sel.resolve.2 = .ok active) (c : CollectorId) :
    sel.isEnabled c = true ↔ c ∈ active := by
  obtain ⟨E, D, hE, hD, rfl⟩ := resolve_snd_eq_ok.1 h
  rw [mem_activeIds, isEnabled, Bool.and_eq_true, Bool.not_eq_true', ← Bool.not_eq_true,
    names_iff_mem hE, names_iff_mem hD]
  simp

/-- What `resolve` gives, in full: the first unknown enabled name, else the first unknown
    disabled one, else the enabled collectors that are not disabled, first occurrences kept. -/
theorem resolve_snd (sel : Selection) :
    sel.resolve.2 =
      match firstUnknown sel.enabled, firstUnknown sel.disabled with
      | some x, _ => .error (.unknownCollector x)
      | none, some x => .error (.unknownCollector x)
      | none, none =>
        .ok ((lookupIds sel.enabled).filter (· ∉ lookupIds sel.disabled)).eraseDups := by
  unfold resolve
  rcases hE : resolveNames sel.enabled with ⟨e1, r1⟩
  rcases hD : resolveNames sel.disabled with ⟨e2, r2⟩
  have h1 := resolveNames_snd_eq sel.enabled
  have h2 := resolveNames_snd_eq sel.disabled
  rw [hE] at h1
  rw [hD] at h2
  dsimp only at h1 h2 ⊢
  subst h1 h2
  cases firstUnknown sel.enabled <;> cases firstUnknown sel.disabled <;>
    simp [activeIds_eq]

/-- `resolve` succeeds exactly when both lists hold only known names, with the enabled
    collectors that are not disabled, first occurrences kept. -/
theorem resolve_snd_eq_ok_iff_known (sel : Selection) (ids : List CollectorId) :
    sel.resolve.2 = .ok ids ↔
      firstUnknown sel.enabled = none ∧ firstUnknown sel.disabled = none ∧
        ids = ((lookupIds sel.enabled).filter (· ∉ lookupIds sel.disabled)).eraseDups := by
  rw [resolve_snd]
  cases firstUnknown sel.enabled <;> cases firstUnknown sel.disabled <;> simp [eq_comm]

theorem firstUnknown_eq_none_congr {l l' : List String} (h : ∀ s, s ∈ l' ↔ s ∈ l) :
    firstUnknown l' = none ↔ firstUnknown l = none := by
  simp [firstUnknown, List.find?_eq_none, h]

theorem mem_lookupIds_congr {l l' : List String} (h : ∀ s, s ∈ l' ↔ s ∈ l) (c : CollectorId) :
    c ∈ lookupIds l' ↔ c ∈ lookupIds l := by
  simp [lookupIds, List.mem_filterMap, h]

end Selection

/-! ## Resolving a selection -/

/-- `resolve` refuses the first enabled name that looks up no collector, or, when there is
    none, the first such disabled name; lookup takes the exact ids and the older spelling of
    `auto_discover`. Otherwise the active collectors are the enabled ones without the disabled
    ones, each at its first occurrence. So they never repeat, no disabled collector is among
    them, the order and repeats of the disabled names do not matter, and resolving their own
    ids gives them back. -/
theorem resolve_keeps_first_enabled (sel : Selection) :
    (∀ s c, lookupId s = some c ↔ s = c.name ∨ s = "auto_descover" ∧ c = .autoDiscover) ∧
    (∀ x, sel.resolve.2 = .error (.unknownCollector x) ↔
      firstUnknown sel.enabled = some x ∨
        firstUnknown sel.enabled = none ∧ firstUnknown sel.disabled = some x) ∧
    (∀ ids, sel.resolve.2 = .ok ids ↔
      firstUnknown sel.enabled = none ∧ firstUnknown sel.disabled = none ∧
        ids = ((lookupIds sel.enabled).filter (· ∉ lookupIds sel.disabled)).eraseDups) ∧
    ∀ ids, sel.resolve.2 = .ok ids →
      ids.Nodup ∧ (∀ c ∈ ids, c ∉ lookupIds sel.disabled) ∧
      (∀ disabled' : List String, (∀ s, s ∈ disabled' ↔ s ∈ sel.disabled) →
        (Selection.resolve { sel with disabled := disabled' }).2 = .ok ids) ∧
      (Selection.resolve ⟨ids.map (·.name), [], sel.listOnly⟩).2 = .ok ids := by
  refine ⟨fun s c => lookupId_eq_some, fun x => ?_,
    Selection.resolve_snd_eq_ok_iff_known sel, fun ids h => ?_⟩
  · rw [Selection.resolve_snd]
    cases firstUnknown sel.enabled <;> cases firstUnknown sel.disabled <;> simp
  · -- both lists resolve and `ids` is the filtered walk
    obtain ⟨hE, hD, hids⟩ := (Selection.resolve_snd_eq_ok_iff_known sel ids).1 h
    have hnodup := Selection.resolve_nodup h
    refine ⟨hnodup, fun c hc => ?_, fun disabled' hsame => ?_, ?_⟩
    · rw [hids] at hc
      simpa using (List.mem_filter.1 (List.mem_eraseDups.1 hc)).2
    · -- the disabled names only matter through their members
      have hD' := (Selection.firstUnknown_eq_none_congr hsame).2 hD
      rw [Selection.resolve_snd]
      simp only [hE, hD', hids]
      congr 2
      exact List.filter_congr fun c _ => by simp [Selection.mem_lookupIds_congr hsame c]
    · -- the ids of the active collectors all look up, and they are already without repeats
      have hnames : lookupIds (ids.map (·.name)) = ids := by
        simp [lookupIds, List.filterMap_map, lookupId, Function.comp_def, CollectorId.lookup_name]
      have hknown : firstUnknown (ids.map (·.name)) = none := by
        simp [firstUnknown, List.find?_eq_none, CollectorId.lookup_name]
      rw [Selection.resolve_snd]
      simp only [hknown, hnames]
      simp [firstUnknown, lookupIds, eraseDups_of_nodup hnodup]

/-! ## The listing -/

/-- Once a selection resolves, the listing shows one line per catalog entry, in catalog order,
    each `{marker:<15} {id:<32} {description}` and the colour reset, the marker green exactly
    for the collectors a scrape of that selection runs. -/
theorem listing_marks_active {sel : Selection} {active : List CollectorId}
    (h : sel.resolve.2 = .ok active) :
    (∀ c, sel.isEnabled c = true ↔ c ∈ active) ∧
    sel.listing = String.join (CollectorId.all.map fun c =>
      padRight (if c ∈ active then markerEnabled else markerDisabled) 15 ++ " " ++
        padRight c.name 32 ++ " " ++ c.description ++ colorReset ++ "\n") := by
  refine ⟨Selection.isEnabled_iff_mem h, ?_⟩
  unfold Selection.listing listingLine
  congr 1
  apply List.map_congr_left
  intro c _
  simp only [Selection.isEnabled_iff_mem h c]

/-- The alias and a repeat resolve to two collectors, and the listing marks those two. -/
theorem listing_marks_alias_once :
    (Selection.resolve ⟨["owa", "auto_descover", "owa"], ["http_proxy"], false⟩).2 =
        .ok [.owa, .autoDiscover] ∧
      ((∀ c, Selection.isEnabled ⟨["owa", "auto_descover", "owa"], ["http_proxy"], false⟩ c =
          true ↔ c ∈ [CollectorId.owa, .autoDiscover]) ∧
        Selection.listing ⟨["owa", "auto_descover", "owa"], ["http_proxy"], false⟩ =
          String.join (CollectorId.all.map fun c =>
            padRight (if c ∈ [CollectorId.owa, .autoDiscover] then markerEnabled
              else markerDisabled) 15 ++ " " ++
              padRight c.name 32 ++ " " ++ c.description ++ colorReset ++ "\n")) :=
  have h : (Selection.resolve ⟨["owa", "auto_descover", "owa"], ["http_proxy"], false⟩).2 =
      .ok [.owa, .autoDiscover] := by rfl
  ⟨h, listing_marks_active h⟩

end Collector
end CounterExport
