import CounterExport.Text.Lowercase

/-!
# Lowercasing twice is lowercasing once

`lowercase` writes, for each character, `lowerChar` of it, or one of the two small sigmas for a
capital sigma. A second pass changes nothing, because every character the first pass writes is
one that `lowerChar` keeps as it is (`lowerChar_of_mem_lowerFrom`), and no such character is a
capital sigma, so the second pass copies its input (`lowerFrom_of_fixed`).

For the characters of the simple mapping this is a fact of the table `lowerRuns`, not of the
code that reads it: a run moves every character it maps to a code point that is a valid
character, is no ASCII capital, is not the dotted capital I (which `lowerChar` expands) and is
mapped by no run. The kernel checks that once for all
mapped characters (`lowerRuns_imagesValid`, `lowerRuns_missedBy`), comparing whole runs where
their ranges keep them apart and single code points where they do not. From it, every
character the simple mapping writes is one it keeps (`simpleFixed_lowerSimple`), mapped or not.
-/

set_option autoImplicit false

namespace CounterExport
namespace Text

namespace LowerRun

/-- The code point a run gives to the `i`-th character it maps. -/
def image (r : LowerRun) (i : Nat) : Int := r.first + i * r.step + r.shift

/-- The lowest and the highest code point a run writes. -/
def imageLo (r : LowerRun) : Nat := (r.image 0).toNat

def imageHi (r : LowerRun) : Nat := (r.image (r.count - 1)).toNat

/-- The first code point past those a run maps. -/
def domainEnd (r : LowerRun) : Nat := r.first + r.count * r.step

/-- Whether every code point a run writes is a valid character, no ASCII capital and not the
    dotted capital I. -/
def imagesValid (r : LowerRun) : Bool :=
  (List.range r.count).all fun i =>
    (r.image i).toNat.isValidChar && !(0x41 ≤ (r.image i).toNat && (r.image i).toNat ≤ 0x5A) &&
      (r.image i).toNat != 0x130

/-- Whether `r'` maps no code point that `r` writes: either the ranges lie apart, or every
    written code point is looked at. -/
def missedBy (r r' : LowerRun) : Bool :=
  Nat.blt r.imageHi r'.first || Nat.ble r'.domainEnd r.imageLo ||
    (List.range r.count).all fun i => !r'.maps (r.image i).toNat

/-- A code point a run maps is its `i`-th one for some `i` below its count. -/
theorem exists_of_maps {r : LowerRun} {n : Nat} (h : r.maps n = true) :
    ∃ i < r.count, n = r.first + i * r.step := by
  simp only [maps, Bool.and_eq_true, decide_eq_true_eq, beq_iff_eq] at h
  obtain ⟨⟨hlo, hhi⟩, hmod⟩ := h
  have hdiv := Nat.div_add_mod (n - r.first) r.step
  rw [hmod, Nat.add_zero] at hdiv
  refine ⟨(n - r.first) / r.step, ?_, ?_⟩
  · -- the offset is below `count * step`, so its quotient by `step` is below `count`
    apply Nat.lt_of_mul_lt_mul_right (a := r.step)
    rw [Nat.mul_comm, hdiv]
    omega
  · rw [Nat.mul_comm, hdiv]
    omega

theorem image_le_image (r : LowerRun) {i j : Nat} (hij : i ≤ j) : r.image i ≤ r.image j := by
  have h : ((i * r.step : Nat) : Int) ≤ ((j * r.step : Nat) : Int) :=
    Int.ofNat_le.2 (Nat.mul_le_mul_right r.step hij)
  simp only [image]
  push_cast at h
  omega

theorem imageLo_le {r : LowerRun} (i : Nat) : r.imageLo ≤ (r.image i).toNat :=
  Int.toNat_le_toNat (r.image_le_image (Nat.zero_le i))

theorem le_imageHi {r : LowerRun} {i : Nat} (hi : i < r.count) :
    (r.image i).toNat ≤ r.imageHi :=
  Int.toNat_le_toNat (r.image_le_image (by omega))

/-- What `missedBy` promises: `r'` maps none of the code points `r` writes. -/
theorem maps_image_of_missedBy {r r' : LowerRun} (h : r.missedBy r' = true) {i : Nat}
    (hi : i < r.count) : r'.maps (r.image i).toNat = false := by
  simp only [missedBy, Bool.or_eq_true, Nat.blt_eq, Nat.ble_eq, List.all_eq_true,
    List.mem_range, Bool.not_eq_eq_eq_not, Bool.not_true] at h
  rcases h with (hbelow | habove) | hall
  · -- every written code point lies below the first one `r'` maps
    have := le_imageHi hi
    simp only [maps, Bool.and_eq_false_iff, decide_eq_false_iff_not]
    omega
  · -- every written code point lies past the last one `r'` maps
    have := imageLo_le (r := r) i
    simp only [maps, domainEnd, Bool.and_eq_false_iff, decide_eq_false_iff_not] at habove ⊢
    omega
  · exact hall i hi

end LowerRun

theorem lowerRuns_imagesValid : lowerRuns.toList.all LowerRun.imagesValid = true := by
  decide +kernel

theorem lowerRuns_missedBy :
    (lowerRuns.toList.all fun r => lowerRuns.toList.all r.missedBy) = true := by
  decide +kernel

/-- The code point a run writes for a character it maps is left alone by every run. -/
theorem image_fixed {r : LowerRun} (hr : r ∈ lowerRuns) {i : Nat} (hi : i < r.count) :
    (r.image i).toNat.isValidChar ∧ ¬(0x41 ≤ (r.image i).toNat ∧ (r.image i).toNat ≤ 0x5A) ∧
      (r.image i).toNat ≠ 0x130 ∧ ∀ r' ∈ lowerRuns, r'.maps (r.image i).toNat = false := by
  have hvalid := List.all_eq_true.1 lowerRuns_imagesValid r (Array.mem_toList_iff.2 hr)
  simp only [LowerRun.imagesValid, List.all_eq_true, List.mem_range, Bool.and_eq_true,
    decide_eq_true_eq, Bool.not_eq_eq_eq_not, Bool.not_true, Bool.and_eq_false_iff,
    decide_eq_false_iff_not, bne_iff_ne, ne_eq] at hvalid
  obtain ⟨⟨hchar, hcap⟩, hdot⟩ := hvalid i hi
  refine ⟨hchar, by omega, hdot, fun r' hr' => ?_⟩
  have hmissed := List.all_eq_true.1 (List.all_eq_true.1 lowerRuns_missedBy r
    (Array.mem_toList_iff.2 hr)) r' (Array.mem_toList_iff.2 hr')
  exact LowerRun.maps_image_of_missedBy hmissed hi

theorem toNat_ofNat_of_isValidChar {n : Nat} (h : n.isValidChar) : (Char.ofNat n).toNat = n := by
  have hchar : Char.ofNat n = Char.ofNatAux n h := dif_pos h
  rw [hchar]
  rfl

/-- What the simple mapping does to one character: an ASCII capital becomes its small letter, a
    character that a run maps moves by the run's shift, and any other stays. -/
theorem lowerSimple_cases (c : Char) :
    (0x41 ≤ c.toNat ∧ c.toNat ≤ 0x5A ∧ lowerSimple c = Char.ofNat (c.toNat + 32)) ∨
    (¬(0x41 ≤ c.toNat ∧ c.toNat ≤ 0x5A) ∧
      (c.toNat < 0xC0 ∨ ∀ r ∈ lowerRuns, r.maps c.toNat = false) ∧ lowerSimple c = c) ∨
    ∃ r ∈ lowerRuns, r.maps c.toNat = true ∧
      lowerSimple c = Char.ofNat (Int.toNat (c.toNat + r.shift)) := by
  by_cases hA : 0x41 ≤ c.toNat ∧ c.toNat ≤ 0x5A
  · exact .inl ⟨hA.1, hA.2, by simp only [lowerSimple, if_pos hA]⟩
  by_cases hlt : c.toNat < 0xC0
  · exact .inr (.inl ⟨hA, .inl hlt, by simp only [lowerSimple, if_neg hA, if_pos hlt]⟩)
  cases hfind : lowerRuns.find? (fun r => r.maps c.toNat) with
  | none =>
    have hnone : ∀ r ∈ lowerRuns, r.maps c.toNat = false := fun r hr =>
      Bool.eq_false_iff.2 (Array.find?_eq_none.1 hfind r hr)
    exact .inr (.inl ⟨hA, .inr hnone, by simp only [lowerSimple, if_neg hA, if_neg hlt, hfind]⟩)
  | some r =>
    have hmaps := Array.find?_some hfind
    exact .inr (.inr ⟨r, Array.mem_of_find?_eq_some hfind, hmaps,
      by simp only [lowerSimple, if_neg hA, if_neg hlt, hfind]⟩)

/-- A character that lowercasing keeps as it is: no ASCII capital, not the dotted capital I,
    and either below every run past ASCII or mapped by no run. -/
structure SimpleFixed (d : Char) : Prop where
  not_capital : ¬(0x41 ≤ d.toNat ∧ d.toNat ≤ 0x5A)
  ne_dotted : d ≠ 'İ'
  unmapped : d.toNat < 0xC0 ∨ ∀ r ∈ lowerRuns, r.maps d.toNat = false

theorem SimpleFixed.lowerSimple_eq {d : Char} (h : SimpleFixed d) : lowerSimple d = d := by
  unfold lowerSimple
  rw [if_neg h.not_capital]
  split
  · rfl
  · rename_i hlt
    have hnone : lowerRuns.find? (fun r => r.maps d.toNat) = none :=
      Array.find?_eq_none.2 fun r hr => by
        simp only [h.unmapped.resolve_left hlt r hr, Bool.false_eq_true, not_false_eq_true]
    rw [hnone]

theorem SimpleFixed.lowerChar_eq {d : Char} (h : SimpleFixed d) : lowerChar d = [d] := by
  simp [lowerChar, h.ne_dotted, h.lowerSimple_eq]

/-- The simple mapping, used on any character but the dotted capital I, writes a character
    that lowercasing keeps. -/
theorem simpleFixed_lowerSimple {c : Char} (hc : c ≠ 'İ') : SimpleFixed (lowerSimple c) := by
  have hI : 'İ'.toNat = 0x130 := rfl
  rcases lowerSimple_cases c with ⟨hlo, hhi, hcap⟩ | ⟨hA, hrun, hsame⟩ | ⟨r, hr, hmaps, hrun⟩
  · -- a small ASCII letter lies below every run
    have hvalid : (c.toNat + 32).isValidChar := Or.inl (by omega)
    have hsmall : (lowerSimple c).toNat = c.toNat + 32 := by
      rw [hcap, toNat_ofNat_of_isValidChar hvalid]
    refine ⟨by omega, fun h => ?_, .inl (by omega)⟩
    have := congrArg Char.toNat h
    omega
  · rw [hsame]
    exact ⟨hA, hc, hrun⟩
  · -- a mapped character goes where the table says no run reaches
    obtain ⟨i, hi, hc⟩ := LowerRun.exists_of_maps hmaps
    have himage : Int.toNat (c.toNat + r.shift) = (r.image i).toNat := by
      simp [LowerRun.image, hc]
    obtain ⟨hvalid, hA, hdot, hnone⟩ := image_fixed hr hi
    have hcode : (lowerSimple c).toNat = (r.image i).toNat := by
      rw [hrun, himage, toNat_ofNat_of_isValidChar hvalid]
    refine ⟨by rwa [hcode], fun h => ?_, .inr (by rwa [hcode])⟩
    have := congrArg Char.toNat h
    omega

theorem simpleFixed_of_unmapped {d : Char} (hbig : 0x5A < d.toNat) (hdot : d ≠ 'İ')
    (h : (lowerRuns.toList.all fun r => !r.maps d.toNat) = true) : SimpleFixed d := by
  refine ⟨by omega, hdot, .inr fun r hr => ?_⟩
  simpa using List.all_eq_true.1 h r (Array.mem_toList_iff.2 hr)

theorem lowerSimple_ne_of_mapped {c : Char} (hc : c ≠ 'İ') (hbig : 0xC0 ≤ c.toNat)
    (h : (lowerRuns.toList.any fun r => r.maps c.toNat) = true) : lowerSimple c ≠ c := by
  intro hsame
  -- what the simple mapping writes is mapped by no run, and `c` is
  have hfixed := simpleFixed_lowerSimple hc
  rw [hsame] at hfixed
  obtain ⟨r, hr, hmaps⟩ := List.any_eq_true.1 h
  rcases hfixed.unmapped with hlt | hnone
  · omega
  · simp [hnone r (Array.mem_toList_iff.1 hr)] at hmaps

/-- Every character that lowercasing writes is one that `lowerChar` keeps as it is. -/
theorem lowerChar_of_mem_lowerFrom {before cs : List Char} {c : Char}
    (h : c ∈ lowerFrom before cs) : lowerChar c = [c] := by
  induction cs generalizing before with
  | nil => simp [lowerFrom] at h
  | cons d ds ih =>
    simp only [lowerFrom, List.mem_append] at h
    rcases h with h | h
    · split at h
      · -- a capital sigma becomes one of the two small sigmas
        simp only [List.mem_singleton] at h
        subst h
        unfold lowerSigma
        split <;>
          exact (simpleFixed_of_unmapped (by decide) (by decide) (by decide +kernel)).lowerChar_eq
      · unfold lowerChar at h
        split at h
        · -- the dotted capital I becomes `i` and a combining dot above
          simp only [List.mem_cons, List.not_mem_nil, or_false] at h
          rcases h with rfl | rfl
          · exact SimpleFixed.lowerChar_eq ⟨by decide, by decide, .inl (by decide)⟩
          · exact (simpleFixed_of_unmapped (by decide) (by decide) (by decide +kernel)).lowerChar_eq
        · rename_i hd
          simp only [List.mem_singleton] at h
          subst h
          exact (simpleFixed_lowerSimple hd).lowerChar_eq
    · exact ih h

theorem lowerFrom_of_fixed {before cs : List Char} (h : ∀ c ∈ cs, lowerChar c = [c]) :
    lowerFrom before cs = cs := by
  induction cs generalizing before with
  | nil => rfl
  | cons c cs ih =>
    have hc := h c (List.mem_cons_self ..)
    -- a capital sigma is not kept: it lowercases to a small one
    have hsigma : c ≠ 'Σ' := by
      rintro rfl
      simp only [lowerChar, if_neg (show 'Σ' ≠ 'İ' by decide), List.cons.injEq, and_true] at hc
      exact lowerSimple_ne_of_mapped (by decide) (by decide) (by decide +kernel) hc
    simp only [lowerFrom, hsigma, if_false, hc, List.singleton_append]
    rw [ih fun d hd => h d (List.mem_cons_of_mem _ hd)]

/-- Lowercasing is idempotent. -/
theorem lowercase_lowercase (s : String) : lowercase (lowercase s) = lowercase s := by
  simp only [lowercase, String.toList_ofList]
  rw [lowerFrom_of_fixed fun _ hc => lowerChar_of_mem_lowerFrom hc]

end Text
end CounterExport
