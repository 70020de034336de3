import ParamDoc.Text.Blank
import ParamDoc.Text.Word
import Mathlib.Data.List.DropRight

/-!
# Texts without white space at their ends

Trimming takes white space from the two ends of a text and nothing else. A text that has none there
stays as it is, so a trimmed text stays as it is. White space is no part of a word.
-/

namespace ParamDoc.Text

/-- The text holds nothing but white space. -/
def Blank (s : String) : Prop :=
  ∀ c ∈ s.toList, isBlank c = true

instance (s : String) : Decidable (Blank s) :=
  decidable_of_iff (s.toList.all isBlank = true) List.all_eq_true

section Words

/-- No code point lies in two sets of ranges that are apart. -/
theorem inRanges_eq_false_of_apart {n : Nat} {ranges others : List (Nat × Nat)}
    (h : ∀ r ∈ ranges, ∀ q ∈ others, r.2 < q.1 ∨ q.2 < r.1) (hn : inRanges n ranges = true) :
    inRanges n others = false := by
  rw [Bool.eq_false_iff]
  intro hother
  obtain ⟨r, hr, hlow, hhigh⟩ := inRanges_iff.mp hn
  obtain ⟨q, hq, hlow', hhigh'⟩ := inRanges_iff.mp hother
  have hapart := h r hr q hq
  omega

theorem isWord_of_isBlank {c : Char} (h : isBlank c = true) : isWord c = false := by
  have hletter : inRanges c.toNat letterRanges = false :=
    inRanges_eq_false_of_apart (by decide +kernel) h
  have hdigit : inRanges c.toNat digitRanges = false :=
    inRanges_eq_false_of_apart (by decide +kernel) h
  have hjoiner : inRanges c.toNat joinerRanges = false :=
    inRanges_eq_false_of_apart (by decide +kernel) h
  simp [isWord, isLetterOrDigit, isLetter, hletter, hdigit, hjoiner]

end Words

section Ends

variable {s : List Char}

theorem dropWhile_isBlank_eq_self (h : ∀ c ∈ s.head?, isBlank c = false) :
    s.dropWhile isBlank = s := by
  cases s with
  | nil => rfl
  | cons c s => simp [h c rfl]

theorem exists_trim_append (s : List Char) : ∃ before after, s = before ++ trim s ++ after ∧
    (∀ c ∈ before, isBlank c = true) ∧ ∀ c ∈ after, isBlank c = true := by
  refine ⟨s.takeWhile isBlank, (s.dropWhile isBlank).rtakeWhile isBlank, ?_,
    fun c hc => List.mem_takeWhile_imp hc, fun c hc => List.mem_rtakeWhile_imp hc⟩
  calc
    s = s.takeWhile isBlank ++ s.dropWhile isBlank := List.takeWhile_append_dropWhile.symm
    _ = s.takeWhile isBlank ++ (trim s ++ (s.dropWhile isBlank).rtakeWhile isBlank) :=
      congrArg _ (List.rdropWhile_append_rtakeWhile ..).symm
    _ = s.takeWhile isBlank ++ trim s ++ (s.dropWhile isBlank).rtakeWhile isBlank :=
      (List.append_assoc _ _ _).symm

theorem isBlank_eq_false_of_mem_head?_trim : ∀ c ∈ (trim s).head?, isBlank c = false := by
  intro c hc
  have hstart := List.head?_dropWhile_not isBlank s
  obtain ⟨rest, hrest⟩ := List.head?_eq_some_iff.mp hc
  obtain ⟨after, hafter⟩ := List.rdropWhile_prefix isBlank (s.dropWhile isBlank)
  have hhead : (s.dropWhile isBlank).head? = some c := by
    rw [← hafter]
    exact congrArg (fun t => (t ++ after).head?) hrest
  rw [hhead] at hstart
  simpa using hstart

theorem isBlank_eq_false_of_mem_getLast?_trim : ∀ c ∈ (trim s).getLast?, isBlank c = false := by
  intro c hc
  have hne : (s.dropWhile isBlank).rdropWhile isBlank ≠ [] := by
    intro hnil
    have htrim : trim s = [] := hnil
    simp [htrim] at hc
  have hlast := List.rdropWhile_last_not isBlank _ hne
  rw [← Option.some.inj ((List.getLast?_eq_some_getLast hne).symm.trans hc)]
  simpa using hlast

theorem trim_eq_self_iff : trim s = s ↔
    (∀ c ∈ s.head?, isBlank c = false) ∧ ∀ c ∈ s.getLast?, isBlank c = false := by
  constructor
  · intro h
    rw [← h]
    exact ⟨isBlank_eq_false_of_mem_head?_trim, isBlank_eq_false_of_mem_getLast?_trim⟩
  · rintro ⟨hhead, hlast⟩
    have hend : s.reverse.dropWhile isBlank = s.reverse :=
      dropWhile_isBlank_eq_self (by rwa [List.head?_reverse])
    rw [trim, trimStart, dropWhile_isBlank_eq_self hhead, trimEnd, hend, List.reverse_reverse]

theorem trim_eq_nil_iff : trim s = [] ↔ ∀ c ∈ s, isBlank c = true := by
  constructor
  · intro h
    obtain ⟨before, after, hsplit, hbefore, hafter⟩ := exists_trim_append s
    rw [h, List.append_nil] at hsplit
    intro c hc
    rw [hsplit] at hc
    rcases List.mem_append.mp hc with hc | hc
    · exact hbefore c hc
    · exact hafter c hc
  · intro h
    rw [trim, trimStart, List.dropWhile_eq_nil_iff.mpr h]
    rfl

end Ends

section Strings

variable {s : String}

theorem trimmed_eq_self_iff : trimmed s = s ↔
    (∀ c ∈ s.toList.head?, isBlank c = false) ∧ ∀ c ∈ s.toList.getLast?, isBlank c = false := by
  rw [← trim_eq_self_iff, trimmed, ← String.toList_inj, String.toList_ofList]

@[simp] theorem trimmed_trimmed (s : String) : trimmed (trimmed s) = trimmed s := by
  rw [trimmed_eq_self_iff, trimmed, String.toList_ofList]
  exact ⟨isBlank_eq_false_of_mem_head?_trim, isBlank_eq_false_of_mem_getLast?_trim⟩

theorem trimmed_eq_empty_iff : trimmed s = "" ↔ Blank s := by
  rw [Blank, ← trim_eq_nil_iff, trimmed, ← String.toList_eq_nil_iff, String.toList_ofList]

end Strings

end ParamDoc.Text
