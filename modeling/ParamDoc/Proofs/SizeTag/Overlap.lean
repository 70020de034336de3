import ParamDoc.Proofs.SizeTag.Counting
import ParamDoc.Proofs.SizeTag.Splitting
import Mathlib.Data.Set.List
import Mathlib.Order.Bounds.Defs

/-!
# Size tags that do not overlap

Size tags may overlap: in `size:size:n` the name of one is the keyword of another. Tags that do not
overlap can be put in order, and then each of them stands in what follows the one before. So the
scan finds as many as can be chosen without overlaps, in whatever order they are chosen.
-/

namespace ParamDoc.SizeTag

open Text (isWord)

section Ordered

variable {afterWord : Bool} {text before name after p w q : List Char}

theorem TagAt.length_eq (h : TagAt afterWord text before name after) :
    text.length = before.length + (keyword ++ name ++ after).length := by
  rw [h.split]
  simp only [List.length_append, Nat.add_assoc]

theorem TagAt.exists_after (h : TagAt afterWord text before name after)
    (h' : TagAt afterWord text p w q) (hle : (keyword ++ w ++ q).length ≤ after.length) :
    ∃ r, TagAt true after r w q := by
  have hafter : after <:+ text := ⟨before ++ keyword ++ name, h.split.symm⟩
  have htag : keyword ++ w ++ q <:+ text := ⟨p, by simp [h'.split]⟩
  obtain ⟨r, hr⟩ := List.suffix_of_suffix_length_le htag hafter hle
  refine ⟨r, by simp [← hr], ?_, h'.name_ne_nil, h'.isWord_name, h'.ends⟩
  cases r with
  | nil =>
    -- the name before would go on with the keyword
    have hkey : isWord 's' = false := h.ends 's' (by simp [← hr, keyword])
    have hletter : isWord 's' = true := by decide +kernel
    rw [hletter] at hkey
    cases hkey
  | cons c r =>
    have hp : p = before ++ keyword ++ name ++ c :: r := by
      have hsplit : p ++ (keyword ++ w ++ q) =
          before ++ keyword ++ name ++ c :: r ++ (keyword ++ w ++ q) := by
        rw [List.append_assoc _ (c :: r), hr, ← h.split, h'.split]
        simp
      exact List.append_cancel_right hsplit
    have hstarts := h'.starts
    rw [hp, endsInWord_append] at hstarts
    exact hstarts

/-- Tags, each given by its name and what follows it, stand in a row if each of them begins after
the one before has ended. -/
def InRow (afterWord : Bool) (text : List Char) (tags : List (List Char × List Char)) : Prop :=
  (∀ t ∈ tags, ∃ p, TagAt afterWord text p t.1 t.2) ∧
    tags.Pairwise fun t u => (keyword ++ u.1 ++ u.2).length ≤ t.2.length

theorem InRow.tags {tags : List (List Char × List Char)} (h : InRow afterWord text tags) :
    Tags afterWord text (tags.map (·.1)) := by
  induction tags generalizing afterWord text with
  | nil => exact .nil
  | cons t rest ih =>
    obtain ⟨hall, hrow⟩ := h
    obtain ⟨hfirst, hrest⟩ := List.pairwise_cons.mp hrow
    obtain ⟨p, ht⟩ := hall t (by simp)
    refine .cons ht (ih ⟨fun u hu => ?_, hrest⟩)
    obtain ⟨r, hu'⟩ := hall u (by simp [hu])
    exact ht.exists_after hu' (hfirst u hu)

theorem Tags.exists_inRow {names : List (List Char)} (h : Tags afterWord text names) :
    ∃ tags, InRow afterWord text tags ∧ tags.length = names.length := by
  induction h with
  | nil => exact ⟨[], ⟨by simp, .nil⟩, rfl⟩
  | @cons afterWord text before name after names htag _ ih =>
    obtain ⟨tags, ⟨hall, hrow⟩, hlength⟩ := ih
    refine ⟨(name, after) :: tags, ⟨?_, List.pairwise_cons.mpr ⟨?_, hrow⟩⟩, by simp [hlength]⟩
    · intro t ht
      rcases List.mem_cons.mp ht with rfl | ht
      · exact ⟨before, htag⟩
      · obtain ⟨p, hp⟩ := hall t ht
        rw [htag.split]
        exact ⟨_, hp.prepend _⟩
    · intro t ht
      obtain ⟨p, hp⟩ := hall t ht
      exact (Nat.le_add_left _ _).trans_eq hp.length_eq.symm

end Ordered

/-- A size tag of a text, where it stands. -/
structure Occurrence (text : String) where
  before : String
  name : String
  after : String
  parts : Parts text before name after

namespace Occurrence

/-- The number of characters before the keyword. -/
def start {text : String} (t : Occurrence text) : Nat :=
  t.before.length

/-- The number of characters up to the end of the name. -/
def stop {text : String} (t : Occurrence text) : Nat :=
  t.before.length + "size:".length + t.name.length

/-- No character is part of both tags. -/
def Apart {text : String} (t u : Occurrence text) : Prop :=
  t.stop ≤ u.start ∨ u.stop ≤ t.start

end Occurrence

/-- So many tags can be chosen in the text that no two of them overlap. -/
def CanChoose (text : String) (n : Nat) : Prop :=
  ∃ tags : List (Occurrence text), tags.Pairwise Occurrence.Apart ∧ tags.length = n

namespace Occurrence

variable {text : String}

theorem Apart.symm {t u : Occurrence text} (h : t.Apart u) : u.Apart t :=
  Or.symm h

theorem start_lt_stop (t : Occurrence text) : t.start < t.stop := by
  have hkeyword : "size:".length = 5 := rfl
  unfold start stop
  omega

def tail (t : Occurrence text) : List Char × List Char :=
  (t.name.toList, t.after.toList)

theorem length_eq_start (t : Occurrence text) :
    text.toList.length = t.start + (keyword ++ t.tail.1 ++ t.tail.2).length :=
  (parts_iff_tagAt.mp t.parts).length_eq

theorem length_eq_stop (t : Occurrence text) :
    text.toList.length = t.stop + t.tail.2.length := by
  have hkeyword : "size:".length = keyword.length := rfl
  rw [t.length_eq_start, stop, hkeyword]
  simp only [List.length_append, tail, String.length_toList, start, Nat.add_assoc]

theorem stop_le_start_iff {t u : Occurrence text} : t.stop ≤ u.start ↔
    (keyword ++ u.tail.1 ++ u.tail.2).length ≤ t.tail.2.length := by
  have ht := t.length_eq_stop
  have hu := u.length_eq_start
  omega

theorem exists_tail_eq {p w q : List Char} (h : TagAt false text.toList p w q) :
    ∃ t : Occurrence text, t.tail = (w, q) :=
  ⟨⟨_, _, _, h.parts⟩, by simp [tail]⟩

theorem inRow_tails {tags : List (Occurrence text)}
    (h : tags.Pairwise fun t u => t.stop ≤ u.start) :
    InRow false text.toList (tags.map tail) := by
  constructor
  · intro t ht
    obtain ⟨u, -, rfl⟩ := List.mem_map.mp ht
    exact ⟨_, parts_iff_tagAt.mp u.parts⟩
  · exact List.pairwise_map.mpr (h.imp stop_le_start_iff.mp)

theorem exists_tails_eq {tails : List (List Char × List Char)}
    (h : InRow false text.toList tails) : ∃ tags : List (Occurrence text),
      tags.map tail = tails ∧ tags.Pairwise fun t u => t.stop ≤ u.start := by
  have htails : tails ∈ Set.range (List.map (@tail text)) := by
    rw [Set.range_list_map]
    intro t ht
    obtain ⟨p, hp⟩ := h.1 t ht
    exact exists_tail_eq hp
  obtain ⟨tags, rfl⟩ := htails
  exact ⟨tags, rfl, (List.pairwise_map.mp h.2).imp stop_le_start_iff.mpr⟩

/-- Tags that do not overlap can be put in order. -/
theorem exists_ordered {tags : List (Occurrence text)} (h : tags.Pairwise Apart) :
    ∃ ordered : List (Occurrence text), ordered.Perm tags ∧
      ordered.Pairwise fun t u => t.stop ≤ u.start := by
  have hperm := List.mergeSort_perm tags fun t u => decide (t.start ≤ u.start)
  have hsorted : (tags.mergeSort fun t u => decide (t.start ≤ u.start)).Pairwise
      fun t u => decide (t.start ≤ u.start) = true := by
    apply List.pairwise_mergeSort
    · intro t u v htu huv
      simp only [decide_eq_true_eq] at htu huv ⊢
      exact Nat.le_trans htu huv
    · intro t u
      simp only [Bool.or_eq_true, decide_eq_true_eq]
      exact Nat.le_total _ _
  refine ⟨_, hperm, (hsorted.and ((hperm.pairwise_iff Apart.symm).mpr h)).imp ?_⟩
  rintro t u ⟨hstart, hstop | hstop⟩
  · exact hstop
  · -- the second tag would end before it begins
    have hu := u.start_lt_stop
    rw [decide_eq_true_eq] at hstart
    omega

/-- Tags that do not overlap are as many as tags that stand one after the other. -/
theorem isGreatest_of_mostTags {k : Nat} (h : MostTags text k) :
    IsGreatest {n | CanChoose text n} k := by
  obtain ⟨⟨names, hnames, rfl⟩, hmost⟩ := h
  constructor
  · obtain ⟨tails, hrow, hlength⟩ := hnames.exists_inRow
    obtain ⟨tags, rfl, htags⟩ := exists_tails_eq hrow
    exact ⟨tags, htags.imp Or.inl, by rw [← hlength, List.length_map]⟩
  · rintro n ⟨tags, hapart, rfl⟩
    obtain ⟨ordered, hperm, hordered⟩ := exists_ordered hapart
    have hle := hmost _ (inRow_tails hordered).tags
    rwa [List.length_map, List.length_map, hperm.length_eq] at hle

theorem exists_apart_iff {k : Nat} (h : MostTags text k) :
    (∃ t u : Occurrence text, t.Apart u) ↔ 2 ≤ k := by
  obtain ⟨⟨tags, hapart, rfl⟩, hmost⟩ := isGreatest_of_mostTags h
  constructor
  · rintro ⟨t, u, htu⟩
    exact hmost ⟨[t, u], by simpa using htu, rfl⟩
  · intro hlength
    match tags, hapart, hlength with
    | t :: u :: _, hapart, _ => exact ⟨t, u, (List.pairwise_cons.mp hapart).1 u (by simp)⟩

end Occurrence

/-- The search reports something exactly if the text has two tags that do not overlap, as far as
such reports are shown. Then it is one event, with the name that is found; and one more than the
number in it is the greatest number of tags that can be chosen so that no two of them overlap. -/
theorem find_reports_iff (text : String) (shown : Topic → Bool) :
    (((find text).run shown).1 ≠ [] ↔
      shown .extraSizes = true ∧ ∃ t u : Occurrence text, t.Apart u) ∧
    ∀ e ∈ ((find text).run shown).1, e.topic.level = .debug ∧ ∃ size ignored,
      (find text).run shown = ([.extraSizes size ignored], .ok (some size)) ∧
      IsGreatest {n | CanChoose text n} (ignored + 1) := by
  rw [tells_find text shown]
  rcases others_cases text with ⟨size, k, hleft, hmost, hothers⟩ | ⟨hfew, hothers⟩
  · have hfind : (find text).outcome shown = .ok (some size) :=
      outcome_find_eq_some_iff.mpr hleft
    rw [outcome_find] at hfind
    have happart : ∃ t u : Occurrence text, t.Apart u :=
      (Occurrence.exists_apart_iff hmost).mpr (by omega)
    rw [hfind, hothers]
    by_cases hshown : shown .extraSizes = true
    · refine ⟨by simp [Event.topic, hshown, happart], fun e he => ?_⟩
      obtain rfl : e = .extraSizes size (k + 1) := by simpa using List.mem_of_mem_filter he
      exact ⟨rfl, size, k + 1, by simp [Event.topic, hshown],
        Occurrence.isGreatest_of_mostTags hmost⟩
    · simp [Event.topic, hshown]
  · have hmost : MostTags text (all text.toList).length := mostTags_iff.mpr rfl
    have hnone : ¬∃ t u : Occurrence text, t.Apart u := fun h =>
      absurd ((Occurrence.exists_apart_iff hmost).mp h) (Nat.not_le.mpr (hfew _ hmost))
    simp [hothers, hnone]

/-- Of the three tags in this text the second one overlaps both others. -/
theorem find_reports_chain :
    (find "size:size:size:n").run (fun _ => true) = ([.extraSizes "size" 1], .ok (some "size")) ∧
      (∃ t u : Occurrence "size:size:size:n", t.Apart u) ∧
      IsGreatest {n | CanChoose "size:size:size:n" n} 2 := by
  have hrun : (find "size:size:size:n").run (fun _ => true) =
      ([.extraSizes "size" 1], .ok (some "size")) := by
    decide +kernel
  obtain ⟨hsome, hevents⟩ := find_reports_iff "size:size:size:n" fun _ => true
  obtain ⟨-, happart⟩ := hsome.mp (by simp [hrun])
  obtain ⟨-, size, ignored, hreported, hmost⟩ := hevents (.extraSizes "size" 1) (by simp [hrun])
  rw [hrun] at hreported
  cases hreported
  exact ⟨hrun, happart, hmost⟩

end ParamDoc.SizeTag
