import Std.Data.HashMap
import Mathlib.Data.List.Nodup

/-!
# Indexes from names to positions

The descriptor registry and the family sink each keep an array of entries in the order they were
added and, beside it, a hash map from an entry's name to its position, which they consult
instead of searching the array. Both rely on one invariant, `NameIndex`: the map sends exactly
the names of the entries to their positions.

It holds of the empty pair; appending an entry under a name no entry has, indexed at the
position it takes, keeps it (`NameIndex.push`); changing an entry in place without changing its
name keeps it (`NameIndex.modify`). With it, a name is missing from the map exactly when no
entry has it (`NameIndex.getElem?_eq_none_iff`), and no two entries share a name
(`NameIndex.nodup`).
-/

set_option autoImplicit false

namespace CounterExport
namespace Metric

variable {α : Type} {name : α → String} {index : Std.HashMap String Nat} {entries : Array α}

/-- `index` maps exactly the names of `entries` to their positions. -/
def NameIndex (name : α → String) (index : Std.HashMap String Nat) (entries : Array α) : Prop :=
  ∀ n i, index[n]? = some i ↔ ∃ h : i < entries.size, name entries[i] = n

theorem NameIndex.empty : NameIndex name {} (#[] : Array α) := by
  intro n i
  simp

/-- Appending an entry under a new name, indexed at the position it takes, keeps the index
    exact. -/
theorem NameIndex.push (h : NameIndex name index entries) {y : α}
    (hfree : ∀ x ∈ entries, name x ≠ name y) :
    NameIndex name (index.insert (name y) entries.size) (entries.push y) := by
  intro n i
  simp only [Std.HashMap.getElem?_insert, Array.size_push]
  by_cases hn : name y = n
  · -- the new name is indexed at the new position, and no older position holds it
    subst hn
    simp only [beq_self_eq_true, if_true, Option.some.injEq]
    constructor
    · rintro rfl
      exact ⟨Nat.lt_succ_self _, by simp⟩
    · rintro ⟨hlt, hname⟩
      by_contra hne
      have hold : i < entries.size := by omega
      rw [Array.getElem_push_lt hold] at hname
      exact hfree _ (Array.getElem_mem hold) hname
  · -- another name keeps its position, and the new position holds another name
    have hne : (name y == n) = false := by simpa using hn
    simp only [hne, Bool.false_eq_true, if_false, h n i]
    constructor
    · rintro ⟨hlt, hname⟩
      exact ⟨by omega, by rwa [Array.getElem_push_lt hlt]⟩
    · rintro ⟨hlt, hname⟩
      by_cases hold : i < entries.size
      · exact ⟨hold, by rwa [Array.getElem_push_lt hold] at hname⟩
      · have hi : i = entries.size := by omega
        subst hi
        rw [Array.getElem_push_eq] at hname
        exact absurd hname hn

/-- Changing an entry in place without changing its name keeps the index exact. -/
theorem NameIndex.modify (h : NameIndex name index entries) (i : Nat) {g : α → α}
    (hg : ∀ x, name (g x) = name x) : NameIndex name index (entries.modify i g) := by
  intro n j
  have hsame : ∀ (hj : j < entries.size) (hj' : j < (entries.modify i g).size),
      name (entries.modify i g)[j] = name entries[j] := by
    intro hj hj'
    rw [Array.getElem_modify]
    split <;> simp [hg]
  rw [h n j]
  constructor
  · rintro ⟨hlt, hname⟩
    exact ⟨by simpa using hlt, by rw [hsame hlt]; exact hname⟩
  · rintro ⟨hlt, hname⟩
    have hlt' : j < entries.size := by simpa using hlt
    exact ⟨hlt', by rw [← hsame hlt' hlt]; exact hname⟩

theorem NameIndex.getElem?_eq_none_iff (h : NameIndex name index entries) {n : String} :
    index[n]? = none ↔ ∀ x ∈ entries, name x ≠ n := by
  constructor
  · intro hn x hx hxn
    obtain ⟨i, hlt, rfl⟩ := Array.mem_iff_getElem.1 hx
    rw [(h n i).2 ⟨hlt, hxn⟩] at hn
    cases hn
  · intro hn
    cases hi : index[n]? with
    | none => rfl
    | some i =>
      obtain ⟨hlt, hname⟩ := (h n i).1 hi
      exact absurd hname (hn _ (Array.getElem_mem hlt))

theorem NameIndex.nodup (h : NameIndex name index entries) : (entries.toList.map name).Nodup := by
  rw [List.nodup_iff_injective_getElem]
  rintro ⟨i, hi⟩ ⟨j, hj⟩ hij
  simp only [List.length_map, Array.length_toList] at hi hj
  simp only [List.getElem_map, Array.getElem_toList] at hij
  have hpos_i := (h _ i).2 ⟨hi, rfl⟩
  have hpos_j := (h _ j).2 ⟨hj, hij.symm⟩
  rw [hpos_i, Option.some.injEq] at hpos_j
  exact Fin.ext hpos_j

end Metric
end CounterExport
