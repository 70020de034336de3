import ParamDoc.Proofs.SizeTag.Counting

/-!
# Size tags as parts of a text

A text has a size tag if it is put together from a part that does not end in a word, the keyword, a
whole word, and the rest. The search finds the word for which the first part is as short as
possible.
-/

namespace ParamDoc.SizeTag

open Text (isWord)

/-- The text is made of these parts, with the keyword before the name. The name is a word that is
not part of a longer one, and the keyword does not continue a word. -/
structure Parts (text before name after : String) : Prop where
  text_eq : text = before ++ "size:" ++ name ++ after
  starts : ∀ c ∈ before.toList.getLast?, isWord c = false
  name_ne : name ≠ ""
  isWord_name : ∀ c ∈ name.toList, isWord c = true
  ends : ∀ c ∈ after.toList.head?, isWord c = false

section Parts

variable {text before name after : String}

theorem parts_iff_tagAt : Parts text before name after ↔
    TagAt false text.toList before.toList name.toList after.toList := by
  have hjoin : (before ++ "size:" ++ name ++ after).toList =
      before.toList ++ keyword ++ name.toList ++ after.toList := by
    simp [keyword]
  have hempty : name.toList ≠ [] ↔ name ≠ "" := not_congr String.toList_eq_nil_iff
  constructor
  · intro h
    refine ⟨?_, endsInWord_eq_false_iff.mpr h.starts, hempty.mpr h.name_ne, h.isWord_name, h.ends⟩
    rw [h.text_eq, hjoin]
  · intro h
    refine ⟨String.toList_injective ?_, endsInWord_eq_false_iff.mp h.starts,
      hempty.mp h.name_ne_nil, h.isWord_name, h.ends⟩
    rw [h.split, hjoin]

theorem TagAt.parts {p w q : List Char} (h : TagAt false text.toList p w q) :
    Parts text (String.ofList p) (String.ofList w) (String.ofList q) := by
  rw [parts_iff_tagAt]
  simpa only [String.toList_ofList] using h

theorem leftmost_iff_parts : Leftmost text name ↔ ∃ before after, Parts text before name after ∧
    ∀ p w q, Parts text p w q → before.length ≤ p.length := by
  constructor
  · rintro ⟨before, after, h⟩
    have hparts := h.toTagAt.parts
    rw [String.ofList_toList] at hparts
    refine ⟨_, _, hparts, fun p w q hother => ?_⟩
    rw [String.length_ofList, ← String.length_toList]
    exact h.leftmost _ _ _ (parts_iff_tagAt.mp hother)
  · rintro ⟨before, after, hparts, hfirst⟩
    refine ⟨before.toList, after.toList, parts_iff_tagAt.mp hparts, fun p w q hother => ?_⟩
    have hle := hfirst _ _ _ hother.parts
    rwa [String.length_ofList, ← String.length_toList] at hle

theorem occurs_iff_parts : Occurs text ↔ ∃ before name after, Parts text before name after := by
  constructor
  · rintro ⟨before, name, after, h⟩
    exact ⟨_, _, _, h.parts⟩
  · rintro ⟨before, name, after, h⟩
    exact ⟨_, _, _, parts_iff_tagAt.mp h⟩

end Parts

section Search

variable {text name : String} {shown : Topic → Bool}

theorem outcome_find_eq_some_iff :
    (find text).outcome shown = .ok (some name) ↔ Leftmost text name := by
  rcases find_cases shown text with ⟨size, hsize, hfind⟩ | ⟨hnot, hfind⟩
  · rw [hfind]
    constructor
    · intro h
      cases h
      exact hsize
    · intro h
      rw [h.unique hsize]
  · rw [hfind]
    constructor
    · intro h
      cases h
    · intro h
      exact absurd h.occurs hnot

theorem outcome_find_eq_none_iff : (find text).outcome shown = .ok none ↔ ¬Occurs text := by
  rcases find_cases shown text with ⟨size, hsize, hfind⟩ | ⟨hnot, hfind⟩
  · rw [hfind]
    constructor
    · intro h
      cases h
    · intro h
      exact absurd hsize.occurs h
  · exact iff_of_true hfind hnot

end Search

/-- The search finds a name exactly if the text has parts with it, and none with a shorter text
before the keyword. It finds nothing exactly if the text has no such parts at all. -/
theorem find_parts_iff (text : String) (shown : Topic → Bool) :
    (∀ name, (find text).outcome shown = .ok (some name) ↔
      ∃ before after, Parts text before name after ∧
        ∀ p w q, Parts text p w q → before.length ≤ p.length) ∧
    ((find text).outcome shown = .ok none ↔
      ∀ before name after, ¬Parts text before name after) := by
  constructor
  · intro name
    rw [outcome_find_eq_some_iff, leftmost_iff_parts]
  · rw [outcome_find_eq_none_iff, occurs_iff_parts]
    simp only [not_exists]

/-- A keyword inside a word, or one without a name, hides no tag after it. -/
example : (find "buffersize:a size: b size::size:n").outcome (fun _ => true) = .ok (some "n") := by
  decide +kernel

end ParamDoc.SizeTag
