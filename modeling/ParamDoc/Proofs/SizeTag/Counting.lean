import ParamDoc.Proofs.SizeTag

/-!
# How many size tags a text has

Tags that do not overlap can be chosen in several ways, as the keyword of one may stand in the name
of another. The scan takes the leftmost one each time. That tag ends before or where any other one
does, so a choice that begins with another tag has no more tags than the scan finds.
-/

namespace ParamDoc.SizeTag

open Text (isWord)

/-- Tags that stand one after the other in a text, by their names. -/
inductive Tags : Bool → List Char → List (List Char) → Prop
  | nil {afterWord : Bool} {text : List Char} : Tags afterWord text []
  | cons {afterWord : Bool} {text before name after : List Char} {names : List (List Char)} :
      TagAt afterWord text before name after → Tags true after names →
      Tags afterWord text (name :: names)

/-- So many tags can be chosen in the text, and no more. -/
def MostTags (text : String) (k : Nat) : Prop :=
  (∃ names, Tags false text.toList names ∧ names.length = k) ∧
    ∀ names, Tags false text.toList names → names.length ≤ k

section Shifting

theorem endsInWord_append (afterWord : Bool) (s t : List Char) :
    endsInWord afterWord (s ++ t) = endsInWord (endsInWord afterWord s) t := by
  induction s generalizing afterWord with
  | nil => rfl
  | cons c s ih => exact ih (isWord c)

/-- A tag that may not begin at once may begin at the same place after any other text. -/
theorem TagAt.prepend {text before name after : List Char} (h : TagAt true text before name after)
    (s : List Char) {afterWord : Bool} : TagAt afterWord (s ++ text) (s ++ before) name after := by
  refine ⟨by simp [h.split], ?_, h.name_ne_nil, h.isWord_name, h.ends⟩
  have hstarts := h.starts
  cases before with
  | nil => cases hstarts
  | cons c before =>
    rw [endsInWord_append]
    exact hstarts

theorem Tags.prepend {text : List Char} {names : List (List Char)} (h : Tags true text names)
    (s : List Char) : Tags true (s ++ text) names := by
  cases h with
  | nil => exact .nil
  | cons htag hrest => exact .cons (htag.prepend s) hrest

end Shifting

section Leftmost

variable {afterWord : Bool} {text before name after p w q : List Char}

theorem isWord_colon : isWord ':' = false := by decide +kernel

/-- The name of a tag goes on as long as there are word characters. -/
theorem TagAt.unique (h : TagAt afterWord text before name after)
    (h' : TagAt afterWord text p w q) (hlength : before.length = p.length) :
    name = w ∧ after = q := by
  have hhere {x y : List Char} {z : List Char} (hxy : TagAt afterWord text z x y) :
      here? (keyword ++ (x ++ y)) = some (x, y) :=
    here?_eq_some_iff.mpr ⟨rfl, rfl, hxy.name_ne_nil, hxy.isWord_name, hxy.ends⟩
  have hsplit := h.split.symm.trans h'.split
  simp only [List.append_assoc] at hsplit
  have hsame := hhere h
  rw [(List.append_inj hsplit hlength).2, hhere h', Option.some.injEq, Prod.mk.injEq] at hsame
  exact ⟨hsame.1.symm, hsame.2.symm⟩

theorem Leftmost.unique {text size size' : String} (h : Leftmost text size)
    (h' : Leftmost text size') : size' = size := by
  obtain ⟨before, after, htag⟩ := h
  obtain ⟨before', after', htag'⟩ := h'
  have hlength := Nat.le_antisymm (htag.leftmost _ _ _ htag'.toTagAt)
    (htag'.leftmost _ _ _ htag.toTagAt)
  exact String.toList_injective (htag'.toTagAt.unique htag.toTagAt hlength.symm).1

/-- The colon of a tag is in the name of no tag that begins before it. -/
theorem TagAt.length_le_of_lt (h : TagAt afterWord text before name after)
    (h' : TagAt afterWord text p w q) (hlt : before.length < p.length) :
    q.length ≤ after.length := by
  by_contra hlonger
  have hlength := congrArg List.length (h.split.symm.trans h'.split)
  have hcolon : text[p.length + 4]? = some ':' := by
    rw [h'.split, List.append_assoc, List.append_assoc, List.getElem?_append_right (by omega)]
    simp [keyword]
  simp only [List.length_append, keyword, List.length_cons, List.length_nil] at hlength
  have hindex : text[p.length + 4]? = name[p.length + 4 - (before.length + 5)]? := by
    rw [h.split, List.getElem?_append_left (by simp [keyword]; omega),
      List.getElem?_append_right (by simp [keyword]; omega)]
    simp [keyword]
  rw [hindex] at hcolon
  have hword := h.isWord_name _ (List.mem_of_getElem? hcolon)
  rw [isWord_colon] at hword
  cases hword

theorem LeftmostAt.exists_append (h : LeftmostAt afterWord text before name after)
    (h' : TagAt afterWord text p w q) : ∃ s, after = s ++ q := by
  have hle : q.length ≤ after.length := by
    rcases Nat.lt_or_eq_of_le (h.leftmost p w q h') with hlt | heq
    · exact h.length_le_of_lt h' hlt
    · rw [(h.toTagAt.unique h' heq).2]
  have hsuffix : after <:+ text := ⟨before ++ keyword ++ name, h.split.symm⟩
  have hsuffix' : q <:+ text := ⟨p ++ keyword ++ w, h'.split.symm⟩
  obtain ⟨s, hs⟩ := List.suffix_of_suffix_length_le hsuffix' hsuffix hle
  exact ⟨s, hs.symm⟩

theorem TagAt.length_lt (h : TagAt afterWord text before name after) :
    after.length < text.length := by
  rw [h.split]
  simp [keyword]
  omega

end Leftmost

theorem tags_scan (afterWord : Bool) (text : List Char) :
    Tags afterWord text (scan afterWord text) := by
  induction hn : text.length using Nat.strong_induction_on generalizing afterWord text with
  | _ n ih =>
    subst hn
    rcases scan_cases afterWord text with ⟨before, name, after, htag, hscan⟩ | ⟨-, hscan⟩
    · rw [hscan]
      exact .cons htag.toTagAt (ih _ htag.length_lt true after rfl)
    · rw [hscan]
      exact .nil

theorem Tags.length_le_scan {afterWord : Bool} {text : List Char} {names : List (List Char)}
    (h : Tags afterWord text names) : names.length ≤ (scan afterWord text).length := by
  induction hn : text.length using Nat.strong_induction_on
    generalizing afterWord text names with
  | _ n ih =>
    subst hn
    cases h with
    | nil => exact Nat.zero_le _
    | cons htag hrest =>
      rcases scan_cases afterWord text with ⟨before, name, after, hleft, hscan⟩ | ⟨hnone, -⟩
      · obtain ⟨s, hs⟩ := hleft.exists_append htag
        have hafter := hrest.prepend s
        rw [← hs] at hafter
        rw [hscan]
        exact Nat.succ_le_succ (ih _ hleft.length_lt hafter rfl)
      · exact absurd htag (hnone _ _ _)

theorem mostTags_iff {text : String} {k : Nat} :
    MostTags text k ↔ k = (all text.toList).length := by
  constructor
  · rintro ⟨⟨names, hnames, rfl⟩, hmost⟩
    exact Nat.le_antisymm hnames.length_le_scan (hmost _ (tags_scan false text.toList))
  · rintro rfl
    exact ⟨⟨_, tags_scan false text.toList, rfl⟩, fun names h => h.length_le_scan⟩

/-- The event is about the first tag and how many others can be chosen with it. -/
theorem others_cases (text : String) :
    (∃ size k, Leftmost text size ∧ MostTags text (k + 2) ∧
      others text = [.extraSizes size (k + 1)]) ∨
    (∀ k, MostTags text k → k < 2) ∧ others text = [] := by
  unfold others
  simp only [mostTags_iff]
  rcases hall : all text.toList with _ | ⟨first, _ | ⟨second, rest⟩⟩
  · exact .inr ⟨by simp, rfl⟩
  · exact .inr ⟨by simp, rfl⟩
  · refine .inl ⟨String.ofList first, rest.length, ?_, by simp, rfl⟩
    rcases all_cases text with ⟨name, others, hsome, hleft⟩ | ⟨hnil, -⟩
    · obtain ⟨rfl, -⟩ := List.cons.inj (hall.symm.trans hsome)
      exact hleft
    · rw [hall] at hnil
      cases hnil

end ParamDoc.SizeTag
