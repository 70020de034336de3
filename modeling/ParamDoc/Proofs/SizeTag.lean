import ParamDoc.SizeTag
import ParamDoc.Proofs.Telling
import Mathlib.Data.List.TakeWhile

/-!
# Where size tags stand

A size tag is a way to split a text: the keyword at the start of a word, then a whole run of word
characters. The scan finds the leftmost one; it finds none only if there is none.
-/

namespace ParamDoc.SizeTag

open Text (isWord)

def keyword : List Char :=
  ['s', 'i', 'z', 'e', ':']

/-- Whether a text ends in a word character; what comes before an empty text is given. -/
def endsInWord (afterWord : Bool) : List Char → Bool
  | [] => afterWord
  | c :: rest => endsInWord (isWord c) rest

theorem endsInWord_eq_false_iff {s : List Char} :
    endsInWord false s = false ↔ ∀ c ∈ s.getLast?, isWord c = false := by
  cases s with
  | nil => simp [endsInWord]
  | cons c rest =>
    induction rest generalizing c with
    | nil => simp [endsInWord]
    | cons d rest ih => simpa [endsInWord] using ih d

/-- A tag with the given name stands between two parts of a text. -/
structure TagAt (afterWord : Bool) (text before name after : List Char) : Prop where
  split : text = before ++ keyword ++ name ++ after
  starts : endsInWord afterWord before = false
  name_ne_nil : name ≠ []
  isWord_name : ∀ c ∈ name, isWord c = true
  ends : ∀ c ∈ after.head?, isWord c = false

/-- No tag of the text begins before this one. -/
structure LeftmostAt (afterWord : Bool) (text before name after : List Char) : Prop
    extends TagAt afterWord text before name after where
  leftmost : ∀ p w q, TagAt afterWord text p w q → before.length ≤ p.length

theorem here?_eq_some_iff {s name after : List Char} :
    here? s = some (name, after) ↔ TagAt false s [] name after := by
  constructor
  · intro h
    unfold here? at h
    split at h
    · next rest =>
      split at h
      · cases h
      · next hne =>
        obtain ⟨rfl, rfl⟩ := Prod.mk.inj (Option.some.inj h)
        refine ⟨by simp [keyword], rfl, by simpa using hne, ?_, ?_⟩
        · intro c hc
          exact List.mem_takeWhile_imp hc
        · intro c hc
          have := List.head?_dropWhile_not isWord rest
          rw [Option.mem_def] at hc
          simpa [hc] using this
    · cases h
  · rintro ⟨rfl, -, hne, hname, hafter⟩
    have htake : (name ++ after).takeWhile isWord = name := by
      rw [List.takeWhile_append_of_pos hname]
      cases after with
      | nil => simp
      | cons c rest => simp [hafter c rfl]
    have hdrop : (name ++ after).dropWhile isWord = after := by
      rw [List.dropWhile_append_of_pos hname]
      cases after with
      | nil => rfl
      | cons c rest => simp [hafter c rfl]
    simp [keyword, here?, htake, hdrop, hne]

theorem tagAt_cons_iff {afterWord : Bool} {c d : Char} {rest p w q : List Char} :
    TagAt afterWord (c :: rest) (d :: p) w q ↔ c = d ∧ TagAt (isWord c) rest p w q := by
  constructor
  · rintro ⟨hsplit, hstarts, hne, hname, hends⟩
    obtain ⟨rfl, hrest⟩ := List.cons.inj hsplit
    exact ⟨rfl, hrest, hstarts, hne, hname, hends⟩
  · rintro ⟨rfl, hsplit, hstarts, hne, hname, hends⟩
    exact ⟨by simp [hsplit], hstarts, hne, hname, hends⟩

@[simp] theorem scan_nil (afterWord : Bool) : scan afterWord [] = [] := by
  rw [scan]

theorem scan_cons_true (c : Char) (rest : List Char) :
    scan true (c :: rest) = scan (isWord c) rest := by
  rw [scan]
  simp

theorem scan_of_here? {s name after : List Char} (h : here? s = some (name, after)) :
    scan false s = name :: scan true after := by
  cases s with
  | nil => cases h
  | cons c rest =>
    rw [scan]
    split
    · next hfalse => cases hfalse
    · split
      · next name' after' hsome =>
        rw [h] at hsome
        cases hsome
        rfl
      · next hnone =>
        rw [h] at hnone
        cases hnone

theorem scan_cons_false {c : Char} {rest : List Char} (h : here? (c :: rest) = none) :
    scan false (c :: rest) = scan (isWord c) rest := by
  rw [scan]
  split
  · next hfalse => cases hfalse
  · split
    · next hsome =>
      rw [h] at hsome
      cases hsome
    · rfl

/-- The scan goes on after the leftmost tag, if there is any. -/
theorem scan_cases (afterWord : Bool) (text : List Char) :
    (∃ before name after, LeftmostAt afterWord text before name after ∧
      scan afterWord text = name :: scan true after) ∨
    ((∀ p w q, ¬TagAt afterWord text p w q) ∧ scan afterWord text = []) := by
  induction text generalizing afterWord with
  | nil =>
    refine .inr ⟨?_, scan_nil _⟩
    rintro p w q ⟨hsplit, -⟩
    simp [keyword] at hsplit
  | cons c rest ih =>
    by_cases hhere : ∃ name after, TagAt afterWord (c :: rest) [] name after
    · obtain ⟨name, after, htag⟩ := hhere
      have hflag : afterWord = false := htag.starts
      subst hflag
      refine .inl ⟨[], name, after, ⟨htag, fun p w q _ => Nat.zero_le _⟩, ?_⟩
      exact scan_of_here? (here?_eq_some_iff.mpr htag)
    · have hskip : scan afterWord (c :: rest) = scan (isWord c) rest := by
        cases afterWord with
        | true => exact scan_cons_true c rest
        | false =>
          apply scan_cons_false
          cases h : here? (c :: rest) with
          | none => rfl
          | some found => exact absurd ⟨_, _, here?_eq_some_iff.mp h⟩ hhere
      have hshift : ∀ p w q, TagAt afterWord (c :: rest) p w q →
          ∃ p', p = c :: p' ∧ TagAt (isWord c) rest p' w q := by
        intro p w q htag
        cases p with
        | nil => exact absurd ⟨w, q, htag⟩ hhere
        | cons d p' =>
          obtain ⟨rfl, hrest⟩ := tagAt_cons_iff.mp htag
          exact ⟨p', rfl, hrest⟩
      rw [hskip]
      rcases ih (isWord c) with ⟨before, name, after, htag, hscan⟩ | ⟨hnone, hscan⟩
      · refine .inl ⟨c :: before, name, after, ⟨tagAt_cons_iff.mpr ⟨rfl, htag.toTagAt⟩, ?_⟩, hscan⟩
        intro p w q hother
        obtain ⟨p', rfl, hrest⟩ := hshift p w q hother
        exact Nat.succ_le_succ (htag.leftmost p' w q hrest)
      · refine .inr ⟨?_, hscan⟩
        intro p w q hother
        obtain ⟨p', -, hrest⟩ := hshift p w q hother
        exact hnone p' w q hrest

def Leftmost (text name : String) : Prop :=
  ∃ before after, LeftmostAt false text.toList before name.toList after

def Occurs (text : String) : Prop :=
  ∃ before name after, TagAt false text.toList before name after

theorem Leftmost.occurs {text size : String} (h : Leftmost text size) : Occurs text := by
  obtain ⟨before, after, htag⟩ := h
  exact ⟨before, _, after, htag.toTagAt⟩

theorem Leftmost.ne_empty {text name : String} (h : Leftmost text name) : name ≠ "" := by
  obtain ⟨_, _, htag⟩ := h
  exact fun hempty => htag.name_ne_nil (String.toList_eq_nil_iff.mpr hempty)

theorem Leftmost.isWord {text name : String} (h : Leftmost text name) :
    ∀ c ∈ name.toList, isWord c = true := by
  obtain ⟨_, _, htag⟩ := h
  exact htag.isWord_name

theorem all_cases (text : String) :
    (∃ name others, all text.toList = name :: others ∧ Leftmost text (String.ofList name)) ∨
      (all text.toList = [] ∧ ¬Occurs text) := by
  rcases scan_cases false text.toList with ⟨before, name, after, htag, hscan⟩ | ⟨hnone, hscan⟩
  · refine .inl ⟨name, _, hscan, before, after, ?_⟩
    rwa [String.toList_ofList]
  · refine .inr ⟨hscan, ?_⟩
    rintro ⟨before, name, after, htag⟩
    exact hnone before name after htag

/-- The event about the tags of a text besides the first. -/
def others (text : String) : List Event :=
  match all text.toList with
  | [] | [_] => []
  | first :: others => [.extraSizes (String.ofList first) others.length]

theorem tells_find (text : String) :
    (find text).Tells (others text) (.ok ((all text.toList).head?.map String.ofList)) := by
  unfold find others
  rcases all text.toList with _ | ⟨first, _ | ⟨second, rest⟩⟩
  · exact Query.tells_pure none
  · exact Query.tells_pure (some (String.ofList first))
  · have hreport := Query.tells_report (.extraSizes (String.ofList first) (second :: rest).length)
    exact hreport.bind_silent (Query.tells_pure (some (String.ofList first)))

theorem outcome_find (text : String) (shown : Topic → Bool) :
    (find text).outcome shown = .ok ((all text.toList).head?.map String.ofList) :=
  (tells_find text).outcome shown

theorem find_cases (shown : Topic → Bool) (text : String) :
    (∃ size, Leftmost text size ∧ (find text).outcome shown = .ok (some size)) ∨
      (¬Occurs text ∧ (find text).outcome shown = .ok none) := by
  rw [outcome_find]
  rcases all_cases text with ⟨name, others, hall, hleft⟩ | ⟨hall, hnot⟩
  · rw [hall]
    exact .inl ⟨String.ofList name, hleft, rfl⟩
  · rw [hall]
    exact .inr ⟨hnot, rfl⟩

end ParamDoc.SizeTag
