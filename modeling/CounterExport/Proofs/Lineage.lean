import Mathlib.Data.List.Basic
import Mathlib.Logic.Relation

/-!
# Values that share a cell with their copies

Two kinds of value in the exporter share mutable state with their copies: a counter source
shares its query log with its clones, and a scrape context shares its cancel flag with its
clones and with the children made from it. Both are modelled alike. The shared state lives in a
store of numbered cells; a value made fresh gets a new cell, numbered by the size of the store,
and a copy names the cell of its original.

Which values share a cell is then told by their lineage: the value each one descends from
through copies, its origin (`Lineage`). `Shares` says that the cells of the values made so far
match their lineage: every cell is in the store, and two values name one cell exactly when they
have one origin. Making a value fresh (`Shares.fresh`) and making a copy (`Shares.copy`) keep it.

An origin is also what a chain of copies reaches. `Traces` keeps the copies made, each joining a
copy to its original, and says that two values have one origin exactly when a chain of copies,
taken in either direction, joins them (`Traces.origin_eq_iff`).
-/

set_option autoImplicit false

namespace CounterExport

/-- For each value made so far, in order of making, the position of the value it descends from
    through copies: its own position when it was made fresh, its original's origin when it was
    made as a copy. -/
abbrev Lineage := List Nat

namespace Lineage

/-- A value made fresh is its own origin. -/
def fresh (l : Lineage) : Lineage := l ++ [l.length]

/-- A copy of the value at position `i` has that value's origin; a copy of a value not made is
    not made. -/
def copy (l : Lineage) (i : Nat) : Lineage :=
  match l[i]? with
  | some o => l ++ [o]
  | none => l

@[simp] theorem length_fresh (l : Lineage) : l.fresh.length = l.length + 1 := by
  simp [fresh]

end Lineage

theorem getElem?_append_one {α : Type} (l : List α) (x : α) (k : Nat) :
    (l ++ [x])[k]? = if k < l.length then l[k]? else if k = l.length then some x else none := by
  rw [List.getElem?_append]
  split
  · rfl
  · split
    · rename_i heq
      subst heq
      simp
    · rename_i hlt hne
      rw [List.getElem?_eq_none]
      simp only [List.length_singleton]
      omega

/-- The cells that the values made so far name, in order of making, match their lineage `l`:
    every cell is one of the store's `size` cells, each value descends from one made no later,
    and two values name one cell exactly when they have one origin. -/
structure Shares (l : Lineage) (cells : List Nat) (size : Nat) : Prop where
  length_eq : cells.length = l.length
  lt_size : ∀ c ∈ cells, c < size
  early : ∀ k o : Nat, l[k]? = some o → o ≤ k
  same_iff : ∀ i j : Nat, i < l.length → j < l.length →
    (cells[i]? = cells[j]? ↔ l[i]? = l[j]?)

namespace Shares

variable {l : Lineage} {cells : List Nat} {size : Nat}

theorem nil (size : Nat) : Shares [] [] size where
  length_eq := rfl
  lt_size := by simp
  early := by simp
  same_iff := by simp

/-- A value made fresh takes the next cell of the store: it shares it with no earlier value, and
    it is the origin of no earlier value. -/
theorem fresh (h : Shares l cells size) : Shares l.fresh (cells ++ [size]) (size + 1) where
  length_eq := by simp [h.length_eq]
  lt_size c hc := by
    rcases List.mem_append.1 hc with hc | hc
    · exact Nat.lt_succ_of_lt (h.lt_size c hc)
    · simp only [List.mem_singleton] at hc
      omega
  early k o hk := by
    rw [Lineage.fresh, getElem?_append_one] at hk
    split at hk
    · exact h.early k o hk
    · split at hk
      · cases hk
        omega
      · cases hk
  same_iff i j hi hj := by
    -- an earlier value names a cell below `size` and descends from a value before the new one
    have hold : ∀ k, k < l.length →
        cells[k]? ≠ some size ∧ l[k]? ≠ some l.length := by
      intro k hk
      constructor
      · intro hc
        exact Nat.lt_irrefl _ (h.lt_size size (List.mem_of_getElem? hc))
      · intro ho
        have := h.early k _ ho
        omega
    simp only [Lineage.length_fresh] at hi hj
    rw [Lineage.fresh, getElem?_append_one cells, getElem?_append_one cells,
      getElem?_append_one l, getElem?_append_one l, h.length_eq]
    rcases Nat.lt_or_ge i l.length with hi' | hi' <;> rcases Nat.lt_or_ge j l.length with hj' | hj'
    · simp only [hi', hj', if_true]
      exact h.same_iff i j hi' hj'
    · have hjn : j = l.length := by omega
      simp only [hi', if_true, hjn, Nat.lt_irrefl, if_false]
      exact iff_of_false (hold i hi').1 (hold i hi').2
    · have hin : i = l.length := by omega
      simp only [hj', if_true, hin, Nat.lt_irrefl, if_false]
      exact iff_of_false (Ne.symm (hold j hj').1) (Ne.symm (hold j hj').2)
    · have hin : i = l.length := by omega
      have hjn : j = l.length := by omega
      simp [hin, hjn]

/-- A copy names its original's cell and has its original's origin. -/
theorem copy (h : Shares l cells size) {i c : Nat} (hc : cells[i]? = some c) :
    Shares (l.copy i) (cells ++ [c]) size := by
  have hi : i < l.length := by
    rw [← h.length_eq]
    exact (List.getElem?_eq_some_iff.1 hc).1
  obtain ⟨o, ho⟩ : ∃ o, l[i]? = some o := ⟨l[i], List.getElem?_eq_getElem hi⟩
  have hcopy : l.copy i = l ++ [o] := by simp [Lineage.copy, ho]
  rw [hcopy]
  refine ⟨by simp [h.length_eq], ?_, ?_, ?_⟩
  · intro c' hc'
    rcases List.mem_append.1 hc' with hc' | hc'
    · exact h.lt_size c' hc'
    · simp only [List.mem_singleton] at hc'
      subst hc'
      exact h.lt_size _ (List.mem_of_getElem? hc)
  · intro k o' hk
    rw [getElem?_append_one] at hk
    split at hk
    · exact h.early k o' hk
    · split at hk
      · cases hk
        have := h.early i o ho
        omega
      · cases hk
  · -- the copy answers every comparison as its original does
    have hsame : ∀ k, k < l.length + 1 →
        ((cells ++ [c])[k]? = cells[if k < l.length then k else i]? ∧
          (l ++ [o])[k]? = l[if k < l.length then k else i]?) := by
      intro k hk
      rw [getElem?_append_one, getElem?_append_one, h.length_eq]
      by_cases hk' : k < l.length
      · simp [hk']
      · have hkn : k = l.length := by omega
        simp [hkn, hc, ho]
    intro i' j' hi' hj'
    simp only [List.length_append, List.length_singleton] at hi' hj'
    rw [(hsame i' hi').1, (hsame j' hj').1, (hsame i' hi').2, (hsame j' hj').2]
    apply h.same_iff <;> split <;> assumption

end Shares

/-- Two values are joined by a chain of the copies `links`, each step taken in either
    direction: a pair `(k, i)` says that value `k` was made as a copy of value `i`. -/
def Joined (links : List (Nat × Nat)) : Nat → Nat → Prop :=
  Relation.EqvGen fun k i => (k, i) ∈ links

theorem Joined.mono {links links' : List (Nat × Nat)} (hsub : ∀ e ∈ links, e ∈ links')
    {a b : Nat} (h : Joined links a b) : Joined links' a b :=
  Relation.EqvGen.mono (fun k i hki => hsub (k, i) hki) a b h

/-- The copies `links` made so far match the lineage `l`: each joins a value to one made
    before it, a copy has its original's origin, an origin is a value made fresh (its own
    origin), and a chain of copies joins every value to its origin. -/
structure Traces (l : Lineage) (links : List (Nat × Nat)) : Prop where
  lt : ∀ k i, (k, i) ∈ links → i < k ∧ k < l.length
  origin_eq : ∀ k i, (k, i) ∈ links → l[k]? = l[i]?
  root : ∀ k o : Nat, l[k]? = some o → l[o]? = some o
  joined_origin : ∀ k o : Nat, l[k]? = some o → Joined links k o

namespace Traces

variable {l : Lineage} {links : List (Nat × Nat)}

theorem nil : Traces [] [] where
  lt := by simp
  origin_eq := by simp
  root := by simp
  joined_origin := by simp

/-- The links of values made before a new one still join values of the longer lineage, and
    the origins of those values are still made fresh. -/
theorem append (h : Traces l links) (x : Nat) :
    (∀ k i, (k, i) ∈ links → i < k ∧ k < (l ++ [x]).length) ∧
      (∀ k i, (k, i) ∈ links → (l ++ [x])[k]? = (l ++ [x])[i]?) ∧
      ∀ k o : Nat, l[k]? = some o → (l ++ [x])[o]? = some o := by
  refine ⟨fun k i hki => ?_, fun k i hki => ?_, fun k o hk => ?_⟩
  · have := h.lt k i hki
    simp only [List.length_append, List.length_singleton]
    omega
  · have hlt := h.lt k i hki
    rw [List.getElem?_append_left hlt.2, List.getElem?_append_left (by omega)]
    exact h.origin_eq k i hki
  · have ho := h.root k o hk
    rw [List.getElem?_append_left (List.getElem?_eq_some_iff.1 ho).1, ho]

/-- A value made fresh is joined to itself only. -/
theorem fresh (h : Traces l links) : Traces l.fresh links where
  lt := (h.append l.length).1
  origin_eq := (h.append l.length).2.1
  root k o hk := by
    rw [Lineage.fresh, getElem?_append_one] at hk
    split at hk
    · exact (h.append l.length).2.2 k o hk
    · split at hk
      · cases hk
        simp [Lineage.fresh]
      · cases hk
  joined_origin k o hk := by
    rw [Lineage.fresh, getElem?_append_one] at hk
    split at hk
    · exact h.joined_origin k o hk
    · split at hk
      · cases hk
        rename_i hkn
        subst hkn
        exact Relation.EqvGen.refl _
      · cases hk

/-- A copy of value `i` is joined to `i`, and through it to their origin. -/
theorem copy (h : Traces l links) {i : Nat} (hi : i < l.length) :
    Traces (l.copy i) (links ++ [(l.length, i)]) := by
  obtain ⟨o, ho⟩ : ∃ o, l[i]? = some o := ⟨l[i], List.getElem?_eq_getElem hi⟩
  have hcopy : l.copy i = l ++ [o] := by simp [Lineage.copy, ho]
  have hsub : ∀ e ∈ links, e ∈ links ++ [(l.length, i)] :=
    fun e he => List.mem_append_left _ he
  rw [hcopy]
  refine ⟨?_, ?_, ?_, ?_⟩
  · intro k j hkj
    rcases List.mem_append.1 hkj with hkj | hkj
    · exact (h.append o).1 k j hkj
    · simp only [List.mem_singleton, Prod.mk.injEq] at hkj
      obtain ⟨rfl, rfl⟩ := hkj
      simp [hi]
  · intro k j hkj
    rcases List.mem_append.1 hkj with hkj | hkj
    · exact (h.append o).2.1 k j hkj
    · simp only [List.mem_singleton, Prod.mk.injEq] at hkj
      obtain ⟨rfl, rfl⟩ := hkj
      rw [List.getElem?_append_left hi, ho]
      simp
  · intro k o' hk
    rw [getElem?_append_one] at hk
    split at hk
    · exact (h.append o).2.2 k o' hk
    · split at hk
      · cases hk
        exact (h.append o).2.2 i o ho
      · cases hk
  · intro k o' hk
    rw [getElem?_append_one] at hk
    split at hk
    · exact (h.joined_origin k o' hk).mono hsub
    · split at hk
      · cases hk
        rename_i hkn
        subst hkn
        -- the copy is joined to its original, and the original to the origin they share
        have hlink : Joined (links ++ [(l.length, i)]) l.length i :=
          Relation.EqvGen.rel _ _ (by simp)
        exact Relation.EqvGen.trans _ _ _ hlink ((h.joined_origin i o ho).mono hsub)
      · cases hk

/-- Two values have one origin exactly when a chain of copies joins them. -/
theorem origin_eq_iff (h : Traces l links) {i : Nat} (hi : i < l.length) (j : Nat) :
    l[i]? = l[j]? ↔ Joined links i j := by
  constructor
  · intro hij
    obtain ⟨o, ho⟩ : ∃ o, l[i]? = some o := ⟨l[i], List.getElem?_eq_getElem hi⟩
    exact Relation.EqvGen.trans _ _ _ (h.joined_origin i o ho)
      (Relation.EqvGen.symm _ _ (h.joined_origin j o (hij ▸ ho)))
  · -- every copy keeps its original's origin, whatever the range of the values it joins
    intro hjoin
    clear hi
    induction hjoin with
    | rel a b hab => exact h.origin_eq a b hab
    | refl => rfl
    | symm a b _ ih => exact ih.symm
    | trans a b c _ _ ihab ihbc => exact ihab.trans ihbc

end Traces

end CounterExport
