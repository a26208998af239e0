import CounterExport.Collector.Label
import CounterExport.Proofs.Lowercase
import Mathlib.Data.List.TakeWhile

/-!
# Label values: their normal form, and which instance rows get one

`labelName` lowercases an instance name, cuts it into words at blanks, joins the words with
`_` and turns each `.` into `_`. What comes out is made of `LabelChar`s: no blank (blanks only
separate words, `mem_words`), no dot (each was replaced), and only characters lowercasing keeps
(`lowerChar_of_mem_lowerFrom`). On such a text every step is the identity: lowercasing copies
it (`lowerFrom_of_fixed`), it is a single word (`words_of_no_blank`), and it has no dot to
replace. So a label value is its own label value (`labelName_of_labelChars`).

`instanceLabel` skips numbered copies and aggregate rows. The text after the last `#` is the
`d` of a split `p ++ '#' :: d` with no `#` in `d` (`split_of_afterLastHash`,
`afterLastHash_append_cons`), which turns the index suffix test into "ends in `#` and one or two
ASCII digits". The explicit test for the
name `_Total` is subsumed by the test on the label, as `_Total` labels to `_total`.
-/

set_option autoImplicit false

namespace CounterExport

namespace Text

/-- Every character of a word is a character of the text read, or of the word begun, and is
    not blank. -/
theorem mem_wordsFrom {cs acc w : List Char} (hw : w ∈ wordsFrom cs acc)
    (hacc : ∀ c ∈ acc, isBlank c = false) {c : Char} (hc : c ∈ w) :
    isBlank c = false ∧ (c ∈ cs ∨ c ∈ acc) := by
  induction cs generalizing acc w with
  | nil =>
    have hw' : w = acc.reverse := by
      unfold wordsFrom at hw
      split at hw <;> simp_all
    subst hw'
    have hc' := List.mem_reverse.1 hc
    exact ⟨hacc c hc', .inr hc'⟩
  | cons d ds ih =>
    unfold wordsFrom at hw
    split at hw
    · -- a blank closes the word begun, and the next word starts empty
      have hrest : ∀ {w}, w ∈ wordsFrom ds [] → c ∈ w → isBlank c = false ∧ c ∈ d :: ds :=
        fun hw hc => by
          obtain ⟨hb, hmem⟩ := ih hw (by simp) hc
          exact ⟨hb, List.mem_cons_of_mem _ (by simpa using hmem)⟩
      split at hw
      · exact (hrest hw hc).imp_right .inl
      · rcases List.mem_cons.1 hw with rfl | hw
        · have hc' := List.mem_reverse.1 hc
          exact ⟨hacc c hc', .inr hc'⟩
        · exact (hrest hw hc).imp_right .inl
    · -- any other character joins the word begun
      rename_i hd
      have hacc' : ∀ c ∈ d :: acc, isBlank c = false := by
        simpa [hd] using hacc
      obtain ⟨hb, hmem⟩ := ih hw hacc' hc
      refine ⟨hb, ?_⟩
      simp only [List.mem_cons] at hmem ⊢
      rcases hmem with h | h | h
      · exact .inl (.inr h)
      · exact .inl (.inl h)
      · exact .inr h

/-- Every character of a word is a character of the text, and is not blank. -/
theorem mem_words {s w : String} (hw : w ∈ words s) {c : Char} (hc : c ∈ w.toList) :
    isBlank c = false ∧ c ∈ s.toList := by
  obtain ⟨ws, hws, rfl⟩ := List.mem_map.1 hw
  rw [String.toList_ofList] at hc
  obtain ⟨hb, hmem⟩ := mem_wordsFrom hws (by simp) hc
  exact ⟨hb, by simpa using hmem⟩

theorem wordsFrom_of_no_blank {cs acc : List Char} (h : ∀ c ∈ cs, isBlank c = false) :
    wordsFrom cs acc = if acc.reverse ++ cs = [] then [] else [acc.reverse ++ cs] := by
  induction cs generalizing acc with
  | nil => simp [wordsFrom]
  | cons c cs ih =>
    have hc : isBlank c = false := h c (List.mem_cons_self ..)
    rw [wordsFrom, if_neg (by simp [hc]), ih fun d hd => h d (List.mem_cons_of_mem _ hd)]
    simp

/-- A text with no blank is one word, or none if it is empty. -/
theorem words_of_no_blank {s : String} (h : ∀ c ∈ s.toList, isBlank c = false) :
    words s = if s = "" then [] else [s] := by
  rw [words, wordsFrom_of_no_blank h]
  by_cases hs : s = ""
  · subst hs
    rfl
  · have hne : s.toList ≠ [] := by rwa [ne_eq, String.toList_eq_nil_iff]
    simp [hs, hne]

end Text

namespace Label

open Text

theorem mem_of_mem_intercalate {α : Type} {sep : List α} :
    ∀ {ls : List (List α)} {a : α}, a ∈ sep.intercalate ls → a ∈ sep ∨ ∃ l ∈ ls, a ∈ l
  | [], _, h => by simp at h
  | [l], _, h => .inr ⟨l, List.mem_singleton_self l, by simpa using h⟩
  | l :: l' :: ls, a, h => by
    rw [List.intercalate_cons_cons] at h
    simp only [List.mem_append] at h
    rcases h with (h | h) | h
    · exact .inr ⟨l, List.mem_cons_self .., h⟩
    · exact .inl h
    · rcases mem_of_mem_intercalate h with h | ⟨l'', hl'', h⟩
      · exact .inl h
      · exact .inr ⟨l'', List.mem_cons_of_mem _ hl'', h⟩

/-- A character a label value is made of: no blank, no dot, and one that lowercasing keeps. -/
structure LabelChar (c : Char) : Prop where
  not_blank : isBlank c = false
  ne_dot : c ≠ '.'
  lower : lowerChar c = [c]

theorem labelChar_underscore : LabelChar '_' :=
  ⟨by decide, by decide, SimpleFixed.lowerChar_eq ⟨by decide, by decide, .inl (by decide)⟩⟩

/-- Every character `labelName` writes is a label character. -/
theorem labelChar_of_mem_labelName {s : String} {c : Char} (h : c ∈ (labelName s).toList) :
    LabelChar c := by
  rw [labelName, String.toList_ofList, List.mem_map] at h
  obtain ⟨d, hd, rfl⟩ := h
  -- a dot is written as `_`; any other character is copied from the joined words
  by_cases hdot : d = '.'
  · rw [if_pos hdot]
    exact labelChar_underscore
  · rw [if_neg hdot]
    rw [String.toList_intercalate] at hd
    rcases mem_of_mem_intercalate hd with hsep | ⟨l, hl, hdl⟩
    · have : d = '_' := by simpa using hsep
      subst this
      exact labelChar_underscore
    · obtain ⟨w, hw, rfl⟩ := List.mem_map.1 hl
      obtain ⟨hb, hlow⟩ := mem_words hw hdl
      exact ⟨hb, hdot, lowerChar_of_mem_lowerFrom (by simpa [lowercase] using hlow)⟩

/-- `labelName` keeps a text made of label characters as it is. -/
theorem labelName_of_labelChars {u : String} (h : ∀ c ∈ u.toList, LabelChar c) :
    labelName u = u := by
  have hlow : lowercase u = u := by
    rw [lowercase, lowerFrom_of_fixed fun c hc => (h c hc).lower, String.ofList_toList]
  have hjoin : "_".intercalate (words u) = u := by
    rw [words_of_no_blank fun c hc => (h c hc).not_blank]
    split <;> simp_all
  have hdots : u.toList.map (fun c => if c = '.' then '_' else c) = u.toList := by
    rw [List.map_congr_left fun c hc => if_neg (h c hc).ne_dot, List.map_id'']
    exact fun _ => rfl
  rw [labelName, hlow, hjoin, hdots, String.ofList_toList]

theorem labelName_labelName (s : String) : labelName (labelName s) = labelName s :=
  labelName_of_labelChars fun _ => labelChar_of_mem_labelName

/-- A label value holds no blank and no dot, and making a label value of it changes nothing. -/
theorem labelName_normal_form (s : String) :
    (∀ c ∈ (labelName s).toList, isBlank c = false ∧ c ≠ '.') ∧
      labelName (labelName s) = labelName s :=
  ⟨fun _ hc => ⟨(labelChar_of_mem_labelName hc).not_blank, (labelChar_of_mem_labelName hc).ne_dot⟩,
    labelName_labelName s⟩

example : labelName "  Normal   Priority\t" = "normal_priority" := by decide +kernel

example : labelName "Edge.Transport.exe" = "edge_transport_exe" := by decide +kernel

/-! ## Which rows get a label -/

theorem afterLastHash_append_cons (p : List Char) {d : List Char} (hd : '#' ∉ d) :
    afterLastHash (p ++ '#' :: d) = some d := by
  have hmem : '#' ∈ p ++ '#' :: d := by simp
  -- reversed, the text starts with `d` reversed, which the walk to the first `#` keeps whole
  have hkeep : ∀ c ∈ d.reverse, decide (c ≠ '#') = true := by
    intro c hc
    rw [decide_eq_true_eq]
    rintro rfl
    exact hd (List.mem_reverse.1 hc)
  simp only [afterLastHash, hmem, if_true, Option.some.injEq, List.reverse_append,
    List.reverse_cons, List.append_assoc, List.singleton_append,
    List.takeWhile_append_of_pos hkeep]
  simp

/-- What is after the last `#` holds no `#`, and the text is something, a `#`, then that. -/
theorem split_of_afterLastHash {cs d : List Char} (h : afterLastHash cs = some d) :
    '#' ∉ d ∧ ∃ p, cs = p ++ '#' :: d := by
  unfold afterLastHash at h
  split at h
  · rename_i hmem
    simp only [Option.some.injEq] at h
    subst h
    -- the reversed text cut before its first `#`: the cut-off part starts with that `#`
    have hne : cs.reverse.dropWhile (· ≠ '#') ≠ [] := by
      rw [ne_eq, List.dropWhile_eq_nil_iff]
      intro hall
      simpa using hall '#' (List.mem_reverse.2 hmem)
    obtain ⟨x, rest, hxr⟩ := List.exists_cons_of_ne_nil hne
    have hx : x = '#' := by
      have := List.head?_dropWhile_not (fun c => decide (c ≠ '#')) cs.reverse
      rw [hxr] at this
      simpa using this
    subst hx
    refine ⟨fun hd => ?_, rest.reverse, ?_⟩
    · simpa using List.mem_takeWhile_imp (List.mem_reverse.1 hd)
    · have hsplit := List.takeWhile_append_dropWhile (p := (· ≠ '#')) (l := cs.reverse)
      rw [hxr] at hsplit
      calc cs = cs.reverse.reverse := (List.reverse_reverse cs).symm
        _ = (cs.reverse.takeWhile (· ≠ '#') ++ '#' :: rest).reverse := by rw [hsplit]
        _ = rest.reverse ++ '#' :: (cs.reverse.takeWhile (· ≠ '#')).reverse := by simp
  · simp at h

/-- The index suffix test in words: the text after the last `#` is one or two ASCII digits. -/
theorem hasIndexSuffix_eq_true_iff (s : String) :
    hasIndexSuffix s = true ↔ ∃ d, afterLastHash s.toList = some d ∧
      (d.length = 1 ∨ d.length = 2) ∧ ∀ c ∈ d, '0' ≤ c ∧ c ≤ '9' := by
  unfold hasIndexSuffix
  split
  · rename_i d hd
    simp [hd]
  · rename_i hnone
    simp [hnone]

/-- A name has an index suffix exactly when it ends in `#` and one or two ASCII digits. -/
theorem hasIndexSuffix_iff (s : String) :
    hasIndexSuffix s = true ↔ ∃ p d : String, s = p ++ "#" ++ d ∧
      (d.length = 1 ∨ d.length = 2) ∧ ∀ c ∈ d.toList, '0' ≤ c ∧ c ≤ '9' := by
  have hhash : "#".toList = ['#'] := by decide
  rw [hasIndexSuffix_eq_true_iff]
  constructor
  · rintro ⟨d, hd, hlen, hdig⟩
    obtain ⟨-, p, hp⟩ := split_of_afterLastHash hd
    refine ⟨String.ofList p, String.ofList d, ?_, by simpa using hlen, by simpa using hdig⟩
    apply String.toList_injective
    simp [hp, hhash]
  · rintro ⟨p, d, rfl, hlen, hdig⟩
    -- no digit is a `#`, so the last `#` is the one before the digits
    have hd : '#' ∉ d.toList := fun h => by simpa using hdig '#' h
    refine ⟨d.toList, ?_, by rwa [String.length_toList], hdig⟩
    simpa [hhash] using afterLastHash_append_cons p.toList hd

theorem labelName_totalInstance_endsWith : (labelName totalInstance).endsWith "_total" = true := by
  decide +kernel

/-- A row gets a label unless it is a numbered copy or its label ends in `_total`; the test
    for the aggregate row's own name adds nothing to these two. -/
theorem instanceLabel_eq (s : String) :
    instanceLabel s =
      if hasIndexSuffix s || (labelName s).endsWith "_total" then none
      else some (labelName s) := by
  by_cases hT : s = totalInstance
  · subst hT
    simp [instanceLabel, labelName_totalInstance_endsWith]
  · by_cases hI : hasIndexSuffix s = true
    · simp [instanceLabel, hI]
    · simp only [instanceLabel, hT, hI, Bool.false_or]
      split <;> simp_all

theorem endsWith_total_of_instanceLabel {s l : String} (h : instanceLabel s = some l) :
    l.endsWith "_total" = false := by
  rw [instanceLabel_eq] at h
  split at h
  · simp at h
  · rename_i hkeep
    simp only [Option.some.injEq] at h
    subst h
    simp only [Bool.or_eq_true, not_or, Bool.not_eq_true] at hkeep
    exact hkeep.2

/-- Which rows get a label: the index suffix test reads as "ends in `#` and one or two ASCII
    digits", a row is skipped exactly when it has one or its label ends in `_total`, and
    otherwise its label is its label value, which then never ends in `_total`. -/
theorem instanceLabel_skips_copies_and_totals (s : String) :
    (hasIndexSuffix s = true ↔ ∃ p d : String, s = p ++ "#" ++ d ∧
      (d.length = 1 ∨ d.length = 2) ∧ ∀ c ∈ d.toList, '0' ≤ c ∧ c ≤ '9') ∧
    instanceLabel s =
      (if hasIndexSuffix s || (labelName s).endsWith "_total" then none
      else some (labelName s)) ∧
    ∀ l, instanceLabel s = some l → l.endsWith "_total" = false :=
  ⟨hasIndexSuffix_iff s, instanceLabel_eq s, fun _ => endsWith_total_of_instanceLabel⟩

example : instanceLabel "pool#12 east" = some "pool#12_east" := by decide +kernel

example : instanceLabel "w3wp#123" = some "w3wp#123" := by decide +kernel

example : instanceLabel "pool#1.2" = some "pool#1_2" := by decide +kernel

example : instanceLabel "pool#a#12" = none := by decide +kernel

end Label

end CounterExport
