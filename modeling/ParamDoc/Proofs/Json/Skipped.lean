import ParamDoc.Proofs.Json.Numbers

/-!
# Nothing else is passed over

When the reader has passed over a value, what it has read is well-formed. While it reads, the text
so far is described by the place it is at: each open bracket contributes what stands before it and
what is complete inside it.
-/

namespace ParamDoc.Json

theorem WellFormed.space {part : Part} {t : List Char} {c : Char} (h : WellFormed part t)
    (hpart : part ≠ .value) (hc : isSpace c = true) : WellFormed part (t ++ [c]) := by
  induction h with
  | item ha ht hb =>
    rw [List.append_assoc]
    exact .item ha ht (hb.concat hc)
  | items hs _ _ ih =>
    rw [List.append_assoc]
    exact .items hs (ih hpart)
  | entry ha hk hb hd ht he =>
    rw [List.append_assoc]
    exact .entry ha hk hb hd ht (he.concat hc)
  | entries hs _ _ ih =>
    rw [List.append_assoc]
    exact .entries hs (ih hpart)
  | _ => exact absurd rfl hpart

/-- What has been read when a value or a key is due, by the brackets that are open. -/
inductive Before : Bool → List Bracket → List Char → Prop
  | start {w : List Char} : Spaces w → Before false [] w
  | firstItem {bs : List Bracket} {t w : List Char} :
      Before false bs t → Spaces w → Before false (.list :: bs) (t ++ '[' :: w)
  | item {bs : List Bracket} {t s w : List Char} : Before false bs t → WellFormed .items s →
      Spaces w → Before false (.list :: bs) (t ++ '[' :: s ++ ',' :: w)
  | firstKey {bs : List Bracket} {t w : List Char} :
      Before false bs t → Spaces w → Before true (.object :: bs) (t ++ '\x7b' :: w)
  | key {bs : List Bracket} {t s w : List Char} : Before false bs t → WellFormed .entries s →
      Spaces w → Before true (.object :: bs) (t ++ '\x7b' :: s ++ ',' :: w)
  | value {bs : List Bracket} {t k b c : List Char} : Before true bs t → SkippedText k →
      Spaces b → Spaces c → Before false bs (t ++ '"' :: k ++ '"' :: b ++ ':' :: c)

/-- What has been read when a value in brackets is complete. -/
inductive After : List Bracket → List Char → Prop
  | list {bs : List Bracket} {t s : List Char} :
      Before false bs t → WellFormed .items s → After (.list :: bs) (t ++ '[' :: s)
  | object {bs : List Bracket} {t s : List Char} :
      Before false bs t → WellFormed .entries s → After (.object :: bs) (t ++ '\x7b' :: s)

theorem Before.space {isKey : Bool} {bs : List Bracket} {t : List Char} {c : Char}
    (h : Before isKey bs t) (hc : isSpace c = true) : Before isKey bs (t ++ [c]) := by
  cases h with
  | start hw => exact .start (hw.concat hc)
  | firstItem ht hw =>
    rw [List.append_assoc]
    exact .firstItem ht (hw.concat hc)
  | item ht hs hw =>
    rw [List.append_assoc]
    exact .item ht hs (hw.concat hc)
  | firstKey ht hw =>
    rw [List.append_assoc]
    exact .firstKey ht (hw.concat hc)
  | key ht hs hw =>
    rw [List.append_assoc]
    exact .key ht hs (hw.concat hc)
  | value ht hk hb hw =>
    rw [List.append_assoc]
    exact .value ht hk hb (hw.concat hc)

theorem After.space {bs : List Bracket} {t : List Char} {c : Char} (h : After bs t)
    (hc : isSpace c = true) : After bs (t ++ [c]) := by
  cases h with
  | list ht hs =>
    rw [List.append_assoc]
    exact .list ht (hs.space (by simp) hc)
  | object ht hs =>
    rw [List.append_assoc]
    exact .object ht (hs.space (by simp) hc)

theorem Before.spaces {t : List Char} (h : Before false [] t) : Spaces t := by
  cases h with
  | start hw => exact hw
  | value ht _ _ _ => cases ht

theorem wellFormed_item {w v : List Char} (hw : Spaces w) (hv : WellFormed .value v) :
    WellFormed .items (w ++ v) := by
  have h := WellFormed.item hw hv spaces_nil
  rwa [List.append_nil] at h

theorem wellFormed_entry {a k b c v : List Char} (ha : Spaces a) (hk : SkippedText k)
    (hb : Spaces b) (hc : Spaces c) (hv : WellFormed .value v) :
    WellFormed .entries (a ++ '"' :: k ++ '"' :: b ++ ':' :: c ++ v) := by
  have h := WellFormed.entry ha hk hb hc hv spaces_nil
  rwa [List.append_nil] at h

theorem Before.after {b : Bracket} {bs : List Bracket} {t v : List Char}
    (h : Before false (b :: bs) t) (hv : WellFormed .value v) : After (b :: bs) (t ++ v) := by
  cases h with
  | @firstItem _ t w ht hw =>
    have htext : t ++ '[' :: w ++ v = t ++ '[' :: (w ++ v) := List.append_assoc _ _ _
    rw [htext]
    exact .list ht (wellFormed_item hw hv)
  | @item _ t s w ht hs hw =>
    have htext : t ++ '[' :: s ++ ',' :: w ++ v = t ++ '[' :: (s ++ ',' :: (w ++ v)) := by simp
    rw [htext]
    exact .list ht (.items hs (wellFormed_item hw hv))
  | @value _ t k b c ht hk hb hc =>
    cases ht with
    | @firstKey _ t w ht hw =>
      have htext : t ++ '\x7b' :: w ++ '"' :: k ++ '"' :: b ++ ':' :: c ++ v =
          t ++ '\x7b' :: (w ++ '"' :: k ++ '"' :: b ++ ':' :: c ++ v) := by simp
      rw [htext]
      exact .object ht (wellFormed_entry hw hk hb hc hv)
    | @key _ t s w ht hs hw =>
      have htext : t ++ '\x7b' :: s ++ ',' :: w ++ '"' :: k ++ '"' :: b ++ ':' :: c ++ v =
          t ++ '\x7b' :: (s ++ ',' :: (w ++ '"' :: k ++ '"' :: b ++ ':' :: c ++ v)) := by simp
      rw [htext]
      exact .object ht (.entries hs (wellFormed_entry hw hk hb hc hv))

/-- What has been read of a string, by how much of an escape is at its end. -/
inductive SkippedEscape.ReadFrom : SkippedEscape → List Char → Prop
  | whole {t : List Char} : SkippedText t → ReadFrom .none t
  | backslash {t : List Char} : SkippedText t → ReadFrom .backslash (t ++ ['\\'])
  | digits {t s : List Char} {left : Nat} : SkippedText t →
      (∀ c ∈ s, IsHexDigit c) → s.length + left = 3 →
      ReadFrom (.digits left) (t ++ '\\' :: 'u' :: s)

namespace Skip

/-- What has been read when the reader is in the given state. -/
inductive ReadFrom : Skip → List Char → Prop
  | value {bs : List Bracket} {t : List Char} : Before false bs t → ReadFrom ⟨.value, bs⟩ t
  | firstItem {bs : List Bracket} {t w : List Char} :
      Before false bs t → Spaces w → ReadFrom ⟨.firstItem, .list :: bs⟩ (t ++ '[' :: w)
  | firstKey {bs : List Bracket} {t w : List Char} :
      Before false bs t → Spaces w → ReadFrom ⟨.firstKey, .object :: bs⟩ (t ++ '\x7b' :: w)
  | key {bs : List Bracket} {t : List Char} : Before true bs t → ReadFrom ⟨.key, bs⟩ t
  | colon {bs : List Bracket} {t k b : List Char} : Before true bs t → SkippedText k → Spaces b →
      ReadFrom ⟨.colon, bs⟩ (t ++ '"' :: k ++ '"' :: b)
  | string {isKey : Bool} {bs : List Bracket} {t s : List Char} {escape : SkippedEscape} :
      Before isKey bs t → escape.ReadFrom s → ReadFrom ⟨.string isKey escape, bs⟩ (t ++ '"' :: s)
  | word {bs : List Bracket} {t s left : List Char} : Before false bs t →
      s ++ left ∈ [['n', 'u', 'l', 'l'], ['t', 'r', 'u', 'e'], ['f', 'a', 'l', 's', 'e']] →
      ReadFrom ⟨.word left, bs⟩ (t ++ s)
  | number {bs : List Bracket} {t s : List Char} {p : NumberPart} :
      Before false bs t → p.ReadFrom s → ReadFrom ⟨.number p, bs⟩ (t ++ s)
  | after {bs : List Bracket} {t : List Char} : After bs t → ReadFrom ⟨.after, bs⟩ t

def Passed (t : List Char) : Prop :=
  ∃ w v, Spaces w ∧ WellFormed .value v ∧ t = w ++ v

/-- The text has been read when the reader took this step. -/
def Follows : Step Skip Unit → List Char → Prop
  | .more next, t => ReadFrom next t
  | .done (), t => Passed t
  | .refused, _ => True

theorem follows_close {bs : List Bracket} {t v : List Char} (h : Before false bs t)
    (hv : WellFormed .value v) : Follows (close bs) (t ++ v) := by
  cases bs with
  | nil => exact ⟨t, v, h.spaces, hv, rfl⟩
  | cons b bs => exact .after (h.after hv)

theorem follows_begin {bs : List Bracket} {t : List Char} (h : Before false bs t) (c : Char) :
    Follows (beginStep bs c) (t ++ [c]) := by
  unfold beginStep begin?
  split
  · next next hnext =>
    split at hnext
    · cases hnext
      exact .firstKey h spaces_nil
    · cases hnext
      exact .firstItem h spaces_nil
    · cases hnext
      exact .string h (.whole .nil)
    · cases hnext
      exact .word h (by simp)
    · cases hnext
      exact .word h (by simp)
    · cases hnext
      exact .word h (by simp)
    · cases hnext
      exact .number h .minus
    · cases hnext
      exact .number h (.zero (.inl rfl))
    · next hzero =>
      split_ifs at hnext with hdigit
      cases hnext
      exact .number h (.whole (.inl rfl) hdigit hzero (by simp))
  · trivial

theorem follows_after {bs : List Bracket} {t : List Char} (h : After bs t) (c : Char) :
    Follows (afterStep c bs) (t ++ [c]) := by
  cases h with
  | @list bs t s ht hs =>
    have htext : t ++ '[' :: s ++ [c] = t ++ ('[' :: s ++ [c]) := List.append_assoc _ _ _
    simp only [afterStep]
    split_ifs with hspace hcomma hclose
    · exact ReadFrom.after ((After.list ht hs).space hspace)
    · rw [hcomma]
      exact ReadFrom.value (.item ht hs spaces_nil)
    · rw [htext, hclose]
      exact follows_close ht (.list hs)
    · trivial
  | @object bs t s ht hs =>
    have htext : t ++ '\x7b' :: s ++ [c] = t ++ ('\x7b' :: s ++ [c]) := List.append_assoc _ _ _
    simp only [afterStep]
    split_ifs with hspace hcomma hclose
    · exact ReadFrom.after ((After.object ht hs).space hspace)
    · rw [hcomma]
      exact ReadFrom.key (.key ht hs spaces_nil)
    · rw [htext, hclose]
      exact follows_close ht (.object hs)
    · trivial

theorem follows_whole {isKey : Bool} {bs : List Bracket} {t s : List Char}
    (h : Before isKey bs t) (hs : SkippedText s) (c : Char) :
    Follows (stringStep isKey bs c .none) (t ++ '"' :: s ++ [c]) := by
  have htext : t ++ '"' :: s ++ [c] = t ++ '"' :: (s ++ [c]) := List.append_assoc _ _ _
  simp only [stringStep]
  split_ifs with hquote hkey hbackslash hcontrol
  · subst hkey
    rw [hquote]
    exact .colon h hs spaces_nil
  · rw [Bool.not_eq_true] at hkey
    subst hkey
    rw [htext, hquote]
    exact follows_close h (.string hs)
  · rw [htext, hbackslash]
    exact .string h (.backslash hs)
  · trivial
  · rw [htext]
    exact .string h (.whole (.snoc hs (.plain ⟨hquote, hbackslash, hcontrol⟩)))

theorem follows_backslash {isKey : Bool} {bs : List Bracket} {t s : List Char}
    (h : Before isKey bs t) (hs : SkippedText s) (c : Char) :
    Follows (stringStep isKey bs c .backslash) (t ++ '"' :: (s ++ ['\\', c])) := by
  simp only [stringStep]
  split_ifs with hu hescaped
  · rw [hu]
    exact .string h (.digits hs (by simp) rfl)
  · obtain ⟨d, hd⟩ := Option.isSome_iff_exists.mp hescaped
    exact .string h (.whole (.snoc hs (.escape (escaped?_eq_some_iff.mp hd))))
  · trivial

theorem follows_digits {isKey : Bool} {bs : List Bracket} {t s d : List Char} {left : Nat}
    (h : Before isKey bs t) (hs : SkippedText s) (hd : ∀ e ∈ d, IsHexDigit e)
    (hlength : d.length + left = 3) (c : Char) :
    Follows (stringStep isKey bs c (.digits left))
      (t ++ '"' :: (s ++ '\\' :: 'u' :: (d ++ [c]))) := by
  have hlength' : (d ++ [c]).length = d.length + 1 := List.length_append
  simp only [stringStep]
  split_ifs with hnone
  · trivial
  · rw [Bool.not_eq_true] at hnone
    have hdigits : ∀ e ∈ d ++ [c], IsHexDigit e := by
      intro e he
      rcases List.mem_append.mp he with he | he
      · exact hd e he
      · rw [List.mem_singleton.mp he, ← isSome_hexValue?_iff, ← Option.not_isNone, hnone]
        rfl
    cases left with
    | zero => exact .string h (.whole (.snoc hs (.digits (by omega) hdigits)))
    | succ left => exact .string h (.digits hs hdigits (by omega))

theorem follows_string {isKey : Bool} {bs : List Bracket} {t s : List Char}
    {escape : SkippedEscape} (h : Before isKey bs t) (hs : escape.ReadFrom s) (c : Char) :
    Follows (stringStep isKey bs c escape) (t ++ '"' :: s ++ [c]) := by
  cases hs with
  | whole hs => exact follows_whole h hs c
  | @backslash s hs =>
    have htext : t ++ '"' :: (s ++ ['\\']) ++ [c] = t ++ '"' :: (s ++ ['\\', c]) := by simp
    rw [htext]
    exact follows_backslash h hs c
  | @digits s d left hs hd hlength =>
    have htext : t ++ '"' :: (s ++ '\\' :: 'u' :: d) ++ [c] =
        t ++ '"' :: (s ++ '\\' :: 'u' :: (d ++ [c])) := by simp
    rw [htext]
    exact follows_digits h hs hd hlength c

theorem follows_firstItem {bs : List Bracket} {t w : List Char} (h : Before false bs t)
    (hw : Spaces w) (c : Char) :
    Follows (Skip.step ⟨.firstItem, .list :: bs⟩ c) (t ++ '[' :: w ++ [c]) := by
  have htext : t ++ '[' :: w ++ [c] = t ++ '[' :: (w ++ [c]) := List.append_assoc _ _ _
  simp only [Skip.step]
  split_ifs with hspace hclose
  · rw [htext]
    exact .firstItem h (hw.concat hspace)
  · rw [htext, hclose]
    exact follows_close h (.emptyList hw)
  · exact follows_begin (.firstItem h hw) c

theorem follows_firstKey {bs : List Bracket} {t w : List Char} (h : Before false bs t)
    (hw : Spaces w) (c : Char) :
    Follows (Skip.step ⟨.firstKey, .object :: bs⟩ c) (t ++ '\x7b' :: w ++ [c]) := by
  have htext : t ++ '\x7b' :: w ++ [c] = t ++ '\x7b' :: (w ++ [c]) := List.append_assoc _ _ _
  simp only [Skip.step]
  split_ifs with hspace hclose hquote
  · rw [htext]
    exact .firstKey h (hw.concat hspace)
  · rw [htext, hclose]
    exact follows_close h (.emptyObject hw)
  · rw [hquote]
    exact .string (.firstKey h hw) (.whole .nil)
  · trivial

theorem follows_colon {bs : List Bracket} {t k b : List Char} (h : Before true bs t)
    (hk : SkippedText k) (hb : Spaces b) (c : Char) :
    Follows (Skip.step ⟨.colon, bs⟩ c) (t ++ '"' :: k ++ '"' :: b ++ [c]) := by
  have htext : t ++ '"' :: k ++ '"' :: b ++ [c] = t ++ '"' :: k ++ '"' :: (b ++ [c]) :=
    List.append_assoc _ _ _
  simp only [Skip.step]
  split_ifs with hspace hcolon
  · rw [htext]
    exact .colon h hk (hb.concat hspace)
  · rw [hcolon]
    exact .value (.value h hk hb spaces_nil)
  · trivial

theorem follows_word {bs : List Bracket} {t s left : List Char} (h : Before false bs t)
    (hs : s ++ left ∈ [['n', 'u', 'l', 'l'], ['t', 'r', 'u', 'e'], ['f', 'a', 'l', 's', 'e']])
    (c : Char) : Follows (Skip.step ⟨.word left, bs⟩ c) (t ++ (s ++ [c])) := by
  cases left with
  | nil => trivial
  | cons d left =>
    have hword : s ++ [d] ++ left = s ++ d :: left := List.append_assoc _ _ _
    rw [← hword] at hs
    simp only [Skip.step]
    split_ifs with hne hend
    · trivial
    · rw [List.isEmpty_iff] at hend
      rw [hend, List.append_nil] at hs
      rw [Decidable.not_not] at hne
      rw [hne]
      exact follows_close h (.word hs)
    · rw [Decidable.not_not] at hne
      rw [hne]
      exact .word h hs

theorem follows_number {bs : List Bracket} {t s : List Char} {p : NumberPart}
    (h : Before false bs t) (hs : p.ReadFrom s) (c : Char) :
    Follows (Skip.step ⟨.number p, bs⟩ c) (t ++ s ++ [c]) := by
  simp only [Skip.step]
  split
  · next next hnext =>
    rw [List.append_assoc]
    exact .number h (hs.next hnext)
  · split_ifs with hends
    · cases bs with
      | nil => trivial
      | cons b bs => exact follows_after (h.after (.number (hs.number_of_endsBefore hends))) c
    · trivial

theorem ReadFrom.step {s : Skip} {t : List Char} (h : ReadFrom s t) (c : Char) :
    Follows (s.step c) (t ++ [c]) := by
  cases h with
  | value ht =>
    simp only [Skip.step]
    split_ifs with hspace
    · exact .value (ht.space hspace)
    · exact follows_begin ht c
  | firstItem ht hw => exact follows_firstItem ht hw c
  | firstKey ht hw => exact follows_firstKey ht hw c
  | key ht =>
    simp only [Skip.step]
    split_ifs with hspace hquote
    · exact .key (ht.space hspace)
    · rw [hquote]
      exact .string ht (.whole .nil)
    · trivial
  | colon ht hk hb => exact follows_colon ht hk hb c
  | string ht hs => exact follows_string ht hs c
  | word ht hs =>
    rw [List.append_assoc]
    exact follows_word ht hs c
  | number ht hs => exact follows_number ht hs c
  | after ht => exact follows_after ht c

/-- A number outside all brackets is complete before a character that does not belong to it. -/
theorem ReadFrom.passed {s : Skip} {t : List Char} {c : Char} (h : ReadFrom s t)
    (hends : s.endsBefore c = true) : Passed t := by
  cases h with
  | @number bs t u p ht hu =>
    cases bs with
    | nil => exact ⟨t, u, ht.spaces, .number (hu.number_of_endsBefore hends), rfl⟩
    | cons b bs => simp [endsBefore] at hends
  | _ => simp [endsBefore] at hends

end Skip

end ParamDoc.Json
