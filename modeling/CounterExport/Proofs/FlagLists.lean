import CounterExport.Collector.Selection
import Mathlib.Data.List.DropRight

/-!
# Comma separated flag values: splitting undoes joining

The collector flags take comma separated lists. `splitList` cuts a value at every comma, trims
each piece of blanks and drops the pieces left empty. The texts it keeps exactly as they are
are the `ListEntry`s: not empty, no blank at either end, no comma. Two facts make splitting a
left inverse of joining with commas:

* `listEntry_of_mem_splitList`: every entry that `splitList` gives is a `ListEntry`, since a
  piece of a split holds no comma (`not_mem_of_mem_splitOn`) and trimming leaves no
  blank at either end (`trimmed_trim`);
* `splitList_intercalate`: joining `ListEntry`s with commas and splitting gives them back. The
  split itself is `List.splitOn_intercalate`; what is left is that each entry trims to itself
  (`trim_eq_self`) and is not dropped as empty.

So splitting a joined split changes nothing, and the selection built from two joined flag
values holds those very lists, a missing flag keeping its default (`flag_lists_round_trip`).
-/

set_option autoImplicit false

namespace CounterExport

namespace Text

/-- A character list with no blank at either end. -/
def Trimmed (cs : List Char) : Prop :=
  (∀ c ∈ cs.head?, isBlank c = false) ∧ ∀ c ∈ cs.getLast?, isBlank c = false

instance (cs : List Char) : Decidable (Trimmed cs) :=
  decidable_of_iff ((cs.head?.all fun c => !isBlank c) && (cs.getLast?.all fun c => !isBlank c))
    (by simp [Trimmed, Option.all_eq_true])

theorem toList_trim (s : String) :
    (trim s).toList = (s.toList.dropWhile isBlank).rdropWhile isBlank := by
  simp [trim, List.rdropWhile]

/-- Trimming keeps a text that has no blank at either end. -/
theorem trim_eq_self {s : String} (h : Trimmed s.toList) : trim s = s := by
  apply String.toList_injective
  rw [toList_trim]
  have hfront : s.toList.dropWhile isBlank = s.toList := by
    cases hs : s.toList with
    | nil => rfl
    | cons c cs =>
      have hc : isBlank c = false := h.1 c (by simp [hs])
      simp [hc]
  rw [hfront, List.rdropWhile_eq_self_iff]
  intro hne
  have hc := h.2 (s.toList.getLast hne) (by simp [List.getLast?_eq_some_getLast hne])
  simp [hc]

theorem trimmed_trim (s : String) : Trimmed (trim s).toList := by
  rw [toList_trim]
  constructor
  · -- the result starts where `dropWhile` stopped, at a character that is not blank
    intro c hc
    obtain ⟨rest, hrest⟩ := List.head?_eq_some_iff.1 (Option.mem_def.1 hc)
    obtain ⟨tail, htail⟩ := List.rdropWhile_prefix isBlank (s.toList.dropWhile isBlank)
    have hhead : (s.toList.dropWhile isBlank).head? = some c := by
      rw [← htail, hrest]; rfl
    simpa [hhead] using List.head?_dropWhile_not isBlank s.toList
  · -- the result ends where `rdropWhile` stopped, at a character that is not blank
    intro c hc
    have hne : (s.toList.dropWhile isBlank).rdropWhile isBlank ≠ [] := by
      rintro hnil
      simp [hnil] at hc
    have hlast : c = ((s.toList.dropWhile isBlank).rdropWhile isBlank).getLast hne := by
      simpa [List.getLast?_eq_some_getLast hne] using hc.symm
    simpa [hlast] using List.rdropWhile_last_not isBlank _ hne

-- the no-break space is blank and trimmed away; the zero width space is not blank and stays
example : trim " \u00A0owa\t" = "owa" := by decide

example : trim "\u200Bowa" = "\u200Bowa" := by decide

theorem mem_of_mem_trim {s : String} {c : Char} (h : c ∈ (trim s).toList) : c ∈ s.toList := by
  rw [toList_trim] at h
  exact List.dropWhile_subset isBlank ((List.rdropWhile_prefix isBlank _).subset h)

end Text

namespace Collector

/-- A text that a comma separated list gives back as one entry: not empty, no blank at either
    end and no comma. -/
structure ListEntry (s : String) : Prop where
  ne_empty : s ≠ ""
  trimmed : Text.Trimmed s.toList
  no_comma : ',' ∉ s.toList

instance (s : String) : Decidable (ListEntry s) :=
  decidable_of_iff (s ≠ "" ∧ Text.Trimmed s.toList ∧ ',' ∉ s.toList)
    ⟨fun ⟨h₁, h₂, h₃⟩ => ⟨h₁, h₂, h₃⟩, fun ⟨h₁, h₂, h₃⟩ => ⟨h₁, h₂, h₃⟩⟩

/-- No piece of a split at a character holds that character. -/
theorem not_mem_of_mem_splitOn {a : Char} :
    ∀ {cs piece : List Char}, piece ∈ cs.splitOn a → a ∉ piece
  | [], piece, h => by simp_all
  | c :: cs, piece, h => by
    rw [List.splitOn_cons_eq_if_modifyHead] at h
    split at h
    · -- `c` is the separator: the pieces are an empty one and those of the rest
      rcases List.mem_cons.1 h with rfl | h
      · simp
      · exact not_mem_of_mem_splitOn h
    · -- `c` is put in front of the first piece of the rest
      rename_i hc
      obtain ⟨first, rest, hr⟩ := List.exists_cons_of_ne_nil (List.splitOn_ne_nil a cs)
      rw [hr, List.modifyHead_cons] at h
      rcases List.mem_cons.1 h with rfl | h
      · have hfirst : a ∉ first := not_mem_of_mem_splitOn (hr ▸ List.mem_cons_self ..)
        simp only [beq_iff_eq] at hc
        simp [hfirst, Ne.symm hc]
      · exact not_mem_of_mem_splitOn (hr ▸ List.mem_cons_of_mem _ h)

theorem listEntry_of_mem_splitList {s x : String} (h : x ∈ splitList s) : ListEntry x := by
  simp only [splitList, List.mem_filter, List.mem_map, decide_eq_true_eq] at h
  obtain ⟨⟨piece, hpiece, rfl⟩, hne⟩ := h
  refine ⟨hne, Text.trimmed_trim _, fun hc => ?_⟩
  have hc' := Text.mem_of_mem_trim hc
  rw [String.toList_ofList] at hc'
  exact not_mem_of_mem_splitOn hpiece hc'

/-- Joining entries with commas and splitting the result gives the entries back. -/
theorem splitList_intercalate {xs : List String} (h : ∀ x ∈ xs, ListEntry x) :
    splitList (",".intercalate xs) = xs := by
  by_cases hne : xs = []
  · subst hne
    decide
  -- the commas split exactly between the entries, since no entry holds one
  have hsplit : (",".intercalate xs).toList.splitOn ',' = xs.map String.toList := by
    rw [String.toList_intercalate]
    exact List.splitOn_intercalate ',' (by simpa using fun x hx => (h x hx).no_comma)
      (by simpa using hne)
  have htrim : (xs.map fun x => Text.trim (String.ofList x.toList)) = xs := by
    conv_rhs => rw [← List.map_id xs]
    exact List.map_congr_left fun x hx => by
      rw [String.ofList_toList, Text.trim_eq_self (h x hx).trimmed, id]
  simp only [splitList, hsplit, List.map_map, Function.comp_def, htrim]
  exact List.filter_eq_self.2 fun x hx => by simpa using (h x hx).ne_empty

theorem splitList_intercalate_splitList (s : String) :
    splitList (",".intercalate (splitList s)) = splitList s :=
  splitList_intercalate fun _ hx => listEntry_of_mem_splitList hx

theorem map_splitList_intercalate {e : Option (List String)}
    (h : ∀ xs ∈ e, ∀ x ∈ xs, ListEntry x) :
    ((e.map (",".intercalate ·)).map splitList) = e := by
  cases e with
  | none => rfl
  | some xs => simp [splitList_intercalate (h xs rfl)]

/-- The selection built from joined flag values holds the joined lists; a missing `enable`
    keeps the whole catalog and a missing `disable` disables nothing. -/
theorem ofFlags_intercalate (ex ey : Option (List String)) (listOnly : Bool)
    (hx : ∀ xs ∈ ex, ∀ x ∈ xs, ListEntry x) (hy : ∀ ys ∈ ey, ∀ y ∈ ys, ListEntry y) :
    Selection.ofFlags (ex.map (",".intercalate ·)) (ey.map (",".intercalate ·)) listOnly =
      ⟨ex.getD (CollectorId.all.map (·.name)), ey.getD [], listOnly⟩ := by
  simp only [Selection.ofFlags, map_splitList_intercalate hx, map_splitList_intercalate hy,
    Selection.default]

/-- Splitting a comma separated list is a left inverse of joining entries with commas, every
    split gives entries, and the selection read from two joined flag values holds exactly the
    joined lists, a missing flag keeping its default. -/
theorem flag_lists_round_trip (s : String) (xs : List String) (ex ey : Option (List String))
    (listOnly : Bool) (hxs : ∀ x ∈ xs, ListEntry x) (hex : ∀ l ∈ ex, ∀ x ∈ l, ListEntry x)
    (hey : ∀ l ∈ ey, ∀ y ∈ l, ListEntry y) :
    splitList (",".intercalate xs) = xs ∧
    (∀ x ∈ splitList s, ListEntry x) ∧
    splitList (",".intercalate (splitList s)) = splitList s ∧
    Selection.ofFlags (ex.map (",".intercalate ·)) (ey.map (",".intercalate ·)) listOnly =
      ⟨ex.getD (CollectorId.all.map (·.name)), ey.getD [], listOnly⟩ :=
  ⟨splitList_intercalate hxs, fun _ => listEntry_of_mem_splitList,
    splitList_intercalate_splitList s, ofFlags_intercalate ex ey listOnly hex hey⟩

/-- The round trip on the flags `--collectors.exchange.enable " owa,, ews "` split and joined
    again, with nothing disabled. -/
theorem owa_ews_flags_round_trip :
    (∀ x ∈ ["owa", "ews"], ListEntry x) ∧ (∀ l ∈ some ["owa", "ews"], ∀ x ∈ l, ListEntry x) ∧
    (∀ l ∈ (none : Option (List String)), ∀ y ∈ l, ListEntry y) ∧
    splitList (",".intercalate ["owa", "ews"]) = ["owa", "ews"] ∧
    (∀ x ∈ splitList " owa,, ews ", ListEntry x) ∧
    splitList (",".intercalate (splitList " owa,, ews ")) = splitList " owa,, ews " ∧
    Selection.ofFlags (some (",".intercalate ["owa", "ews"])) none false =
      ⟨["owa", "ews"], [], false⟩ :=
  have hxs : ∀ x ∈ ["owa", "ews"], ListEntry x := by decide +kernel
  have hex : ∀ l ∈ some ["owa", "ews"], ∀ x ∈ l, ListEntry x := fun l hl => by
    rw [Option.mem_some_iff] at hl
    exact hl ▸ hxs
  have hey : ∀ l ∈ (none : Option (List String)), ∀ y ∈ l, ListEntry y := fun l hl => by
    simp at hl
  ⟨hxs, hex, hey, flag_lists_round_trip " owa,, ews " ["owa", "ews"] (some ["owa", "ews"]) none
    false hxs hex hey⟩

end Collector

end CounterExport
