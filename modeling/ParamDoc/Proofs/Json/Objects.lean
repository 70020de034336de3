import ParamDoc.Proofs.Json.Skipping

/-!
# The entries of an object

An object is read as the list of its keys and of the texts of its values, in the order in which
they are written. No text is read so in two ways: what a token begins with tells where it ends, but
for numbers, and these end before a separator.
-/

namespace ParamDoc.Json

section Tokens

theorem Step.end_unique {σ α : Type} {step : σ → Char → Step σ α} {s last last' : σ}
    {u u' x x' : List Char} {c c' : Char} (h : Step.run? step s u = some last)
    (hc : (step last c).next? = none) (h' : Step.run? step s u' = some last')
    (hc' : (step last' c').next? = none) (htext : u ++ c :: x = u' ++ c' :: x') :
    u = u' ∧ c = c' ∧ x = x' := by
  induction u generalizing s u' with
  | nil =>
    cases h
    cases u' with
    | nil =>
      cases htext
      exact ⟨rfl, rfl, rfl⟩
    | cons d u' =>
      cases htext
      rw [Step.run?_cons, hc] at h'
      cases h'
  | cons d u ih =>
    rw [Step.run?_cons] at h
    obtain ⟨next, hnext, hrest⟩ := Option.bind_eq_some_iff.mp h
    cases u' with
    | nil =>
      cases h'
      cases htext
      rw [hnext] at hc'
      cases hc'
    | cons d' u' =>
      obtain ⟨rfl, htail⟩ := List.cons.inj htext
      rw [Step.run?_cons, hnext, Option.bind_some] at h'
      obtain ⟨rfl, hend⟩ := ih hrest h' htail
      exact ⟨rfl, hend⟩

/-- No space comes first. -/
def BeginsToken (t : List Char) : Prop :=
  ∃ c u, t = c :: u ∧ isSpace c = false

theorem BeginsToken.append {t : List Char} (h : BeginsToken t) (x : List Char) :
    BeginsToken (t ++ x) := by
  obtain ⟨c, u, rfl, hc⟩ := h
  exact ⟨c, u ++ x, rfl, hc⟩

theorem Spaces.append_inj {a a' x x' : List Char} (ha : Spaces a) (ha' : Spaces a')
    (hx : BeginsToken x) (hx' : BeginsToken x') (htext : a ++ x = a' ++ x') :
    a = a' ∧ x = x' := by
  obtain ⟨c, u, rfl, hc⟩ := hx
  obtain ⟨c', u', rfl, hc'⟩ := hx'
  have htake {w y : List Char} {d : Char} (hw : Spaces w) (hd : Json.isSpace d = false) :
      (w ++ d :: y).takeWhile Json.isSpace = w := by
    rw [List.takeWhile_append_of_pos hw.isSpace, List.takeWhile_cons_of_neg (by simp [hd]),
      List.append_nil]
  have haa : a = a' := by
    rw [← htake ha hc, htext, htake ha' hc']
  exact ⟨haa, List.append_cancel_left (haa ▸ htext)⟩

/-- A literal ends at its closing quotation mark, and stands for one text. -/
theorem StringLiteral.append_inj {s s' : String} {k k' x x' : List Char} (h : StringLiteral s k)
    (h' : StringLiteral s' k') (htext : k ++ x = k' ++ x') : s = s' ∧ k = k' ∧ x = x' := by
  obtain ⟨body, hbody, rfl⟩ := h
  obtain ⟨body', hbody', rfl⟩ := h'
  have hrun := Literal.run?_spelledText hbody
  have hrun' := Literal.run?_spelledText hbody'
  have hquote : body ++ '"' :: x = body' ++ '"' :: x' := by simpa using htext
  obtain ⟨rfl, -, rfl⟩ := Step.end_unique hrun rfl hrun' rfl hquote
  rw [hrun, Option.some.injEq, Literal.mk.injEq, List.reverse_inj] at hrun'
  exact ⟨String.toList_injective hrun'.1, rfl, rfl⟩

theorem StringLiteral.unique {s s' : String} {t : List Char} (h : StringLiteral s t)
    (h' : StringLiteral s' t) : s = s' :=
  (StringLiteral.append_inj (x := []) h h' rfl).1

theorem StringLiteral.beginsToken {s : String} {k : List Char} (h : StringLiteral s k) :
    BeginsToken k := by
  obtain ⟨body, -, rfl⟩ := h
  exact ⟨'"', _, rfl, rfl⟩

theorem WellFormed.beginsToken {v : List Char} (h : WellFormed .value v) : BeginsToken v :=
  h.exists_begin

/-- A value outside all brackets ends before a separator at the latest. -/
theorem WellFormed.append_inj {v v' x x' : List Char} {c c' : Char} (h : WellFormed .value v)
    (h' : WellFormed .value v') (hc : IsSeparator c) (hc' : IsSeparator c')
    (htext : v ++ c :: x = v' ++ c' :: x') : v = v' ∧ c :: x = c' :: x' := by
  have hnumber {p : NumberPart} {d : Char} (hp : p.isLast = true) (hd : IsSeparator d) :
      Skip.step ⟨.number p, []⟩ d = .refused := (Skip.Ended.number hp).step hd
  have hnext {p : NumberPart} {d : Char} (hp : p.isLast = true) (hd : IsSeparator d) :
      (Skip.step ⟨.number p, []⟩ d).next? = none := by
    rw [hnumber hp hd]
    rfl
  -- a number that ends before a separator is not completed by it, as any other value is
  have hmixed {w w' y y' : List Char} {d d' e : Char} {p : NumberPart} {last : Skip}
      (hp : p.isLast = true) (hd : IsSeparator d)
      (hw : Step.run? Skip.step .start w = some ⟨.number p, []⟩)
      (hw' : Step.run? Skip.step .start w' = some last) (hlast : last.step e = Skip.close [])
      (heq : w ++ d :: y = w' ++ [e] ++ d' :: y') : False := by
    rw [List.append_assoc] at heq
    obtain ⟨rfl, rfl, -⟩ := Step.end_unique hw (hnext hp hd) hw' (by rw [hlast]; rfl) heq
    rw [hw'] at hw
    cases hw
    rw [hnumber hp hd] at hlast
    cases hlast
  rcases Skip.passes_of_wellFormed h [] .value (.inl rfl) with
    ⟨p, hp, hrun⟩ | ⟨u, d, last, rfl, hrun, hlast⟩
  · rcases Skip.passes_of_wellFormed h' [] .value (.inl rfl) with
      ⟨p', hp', hrun'⟩ | ⟨u', d', last', rfl, hrun', hlast'⟩
    · obtain ⟨rfl, rfl, rfl⟩ :=
        Step.end_unique hrun (hnext hp hc) hrun' (hnext hp' hc') htext
      exact ⟨rfl, rfl⟩
    · exact (hmixed hp hc hrun hrun' hlast' htext).elim
  · rcases Skip.passes_of_wellFormed h' [] .value (.inl rfl) with
      ⟨p', hp', hrun'⟩ | ⟨u', d', last', rfl, hrun', hlast'⟩
    · exact (hmixed hp' hc' hrun' hrun hlast htext.symm).elim
    · rw [List.append_assoc, List.append_assoc] at htext
      obtain ⟨rfl, rfl, hrest⟩ := Step.end_unique hrun (by rw [hlast]; rfl) hrun'
        (by rw [hlast']; rfl) htext
      exact ⟨rfl, hrest⟩

end Tokens

/-- The text is an entry: a key, and the text of a value. -/
def IsEntry (entry : String × List Char) (t : List Char) : Prop :=
  ∃ a k b c e, Spaces a ∧ StringLiteral entry.1 k ∧ Spaces b ∧ Spaces c ∧
    WellFormed .value entry.2 ∧ Spaces e ∧ t = a ++ k ++ b ++ ':' :: c ++ entry.2 ++ e

/-- What stands between the brackets of an object that is not empty. -/
inductive Entries : List (String × List Char) → List Char → Prop
  | one {entry : String × List Char} {t : List Char} : IsEntry entry t → Entries [entry] t
  | cons {entry : String × List Char} {entries : List (String × List Char)} {s t : List Char} :
      IsEntry entry s → Entries entries t → Entries (entry :: entries) (s ++ ',' :: t)

inductive Object : List (String × List Char) → List Char → Prop
  | empty {w : List Char} : Spaces w → Object [] ('\x7b' :: w ++ ['\x7d'])
  | entries {entries : List (String × List Char)} {t : List Char} :
      Entries entries t → Object entries ('\x7b' :: t ++ ['\x7d'])

section WellFormed

theorem Entries.wellFormed {entries : List (String × List Char)} {t : List Char}
    (h : Entries entries t) : WellFormed .entries t := by
  have hentry {entry : String × List Char} {t : List Char} (h : IsEntry entry t) :
      WellFormed .entries t := by
    obtain ⟨a, k, b, c, e, ha, hk, hb, hc, hv, he, rfl⟩ := h
    exact wellFormed_entry_of_key ha hk hb hc hv he
  induction h with
  | one h => exact hentry h
  | cons h _ ih => exact .entries (hentry h) ih

theorem Object.wellFormed {entries : List (String × List Char)} {t : List Char}
    (h : Object entries t) : WellFormed .value t := by
  cases h with
  | empty hw => exact .emptyObject hw
  | entries h => exact .object h.wellFormed

end WellFormed

section Uniqueness

def EndsEntry (c : Char) : Prop :=
  c = ',' ∨ c = '\x7d'

theorem EndsEntry.isSeparator {c : Char} (h : EndsEntry c) : IsSeparator c :=
  .inr (h.imp_right .inr)

theorem EndsEntry.beginsToken {c : Char} (h : EndsEntry c) (x : List Char) :
    BeginsToken (c :: x) := by
  rcases h with rfl | rfl <;> exact ⟨_, x, rfl, rfl⟩

theorem exists_separator {w x : List Char} {c : Char} (hw : Spaces w) (hc : IsSeparator c) :
    ∃ d y, w ++ c :: x = d :: y ∧ IsSeparator d := by
  cases w with
  | nil => exact ⟨c, x, rfl, hc⟩
  | cons d w => exact ⟨d, _, rfl, .inl (hw.isSpace d List.mem_cons_self)⟩

/-- An entry ends before the next comma or brace outside its value. -/
theorem IsEntry.append_inj {entry entry' : String × List Char} {t t' x x' : List Char}
    {c c' : Char} (h : IsEntry entry t) (h' : IsEntry entry' t') (hc : EndsEntry c)
    (hc' : EndsEntry c') (htext : t ++ c :: x = t' ++ c' :: x') :
    entry = entry' ∧ c = c' ∧ x = x' := by
  obtain ⟨key, v⟩ := entry
  obtain ⟨key', v'⟩ := entry'
  obtain ⟨a, k, b, w, e, ha, hk, hb, hw, hv, he, rfl⟩ := h
  obtain ⟨a', k', b', w', e', ha', hk', hb', hw', hv', he', rfl⟩ := h'
  simp only [List.append_assoc, List.cons_append] at htext
  have hcolon (y : List Char) : BeginsToken (':' :: y) := ⟨':', y, rfl, rfl⟩
  obtain ⟨-, htext⟩ := ha.append_inj ha' (hk.beginsToken.append _) (hk'.beginsToken.append _) htext
  obtain ⟨rfl, -, htext⟩ := hk.append_inj hk' htext
  obtain ⟨-, htext⟩ := hb.append_inj hb' (hcolon _) (hcolon _) htext
  obtain ⟨-, htext⟩ := hw.append_inj hw' (hv.beginsToken.append _) (hv'.beginsToken.append _)
    (List.cons.inj htext).2
  obtain ⟨d, y, hd, hsep⟩ := exists_separator (x := x) he hc.isSeparator
  obtain ⟨d', y', hd', hsep'⟩ := exists_separator (x := x') he' hc'.isSeparator
  rw [hd, hd'] at htext
  obtain ⟨rfl, hend⟩ := hv.append_inj hv' hsep hsep' htext
  rw [← hd, ← hd'] at hend
  obtain ⟨-, hend⟩ := he.append_inj he' (hc.beginsToken x) (hc'.beginsToken x') hend
  obtain ⟨rfl, rfl⟩ := List.cons.inj hend
  exact ⟨rfl, rfl, rfl⟩

theorem Entries.unique {entries entries' : List (String × List Char)} {t t' x x' : List Char}
    (h : Entries entries t) (h' : Entries entries' t')
    (htext : t ++ '\x7d' :: x = t' ++ '\x7d' :: x') : entries = entries' := by
  induction h generalizing entries' t' with
  | one hentry =>
    cases h' with
    | one hentry' =>
      obtain ⟨rfl, -, -⟩ := hentry.append_inj hentry' (.inr rfl) (.inr rfl) htext
      rfl
    | cons hentry' _ =>
      rw [List.append_assoc] at htext
      obtain ⟨-, hbrace, -⟩ := hentry.append_inj hentry' (.inr rfl) (.inl rfl) htext
      exact absurd hbrace (by decide)
  | cons hentry _ ih =>
    rw [List.append_assoc] at htext
    cases h' with
    | one hentry' =>
      obtain ⟨-, hcomma, -⟩ := hentry.append_inj hentry' (.inl rfl) (.inr rfl) htext
      exact absurd hcomma (by decide)
    | cons hentry' hentries' =>
      rw [List.append_assoc] at htext
      obtain ⟨rfl, -, hrest⟩ := hentry.append_inj hentry' (.inl rfl) (.inl rfl) htext
      rw [ih hentries' hrest]

theorem Entries.exists_begin {entries : List (String × List Char)} {t : List Char}
    (h : Entries entries t) : ∃ w u, Spaces w ∧ t = w ++ '"' :: u := by
  have hentry {entry : String × List Char} {t : List Char} (h : IsEntry entry t) :
      ∃ w u, Spaces w ∧ t = w ++ '"' :: u := by
    obtain ⟨a, k, b, c, e, ha, ⟨body, -, rfl⟩, -, -, -, -, rfl⟩ := h
    exact ⟨a, _, ha, by simp [List.append_assoc]; rfl⟩
  cases h with
  | one h => exact hentry h
  | cons h _ =>
    obtain ⟨w, u, hw, rfl⟩ := hentry h
    exact ⟨w, _, hw, List.append_assoc w _ _⟩

theorem Object.unique {entries entries' : List (String × List Char)} {t : List Char}
    (h : Object entries t) (h' : Object entries' t) : entries = entries' := by
  -- the first key of an object that is not empty is no space, nor is it the closing brace
  have hmixed {entries : List (String × List Char)} {w t : List Char} (hw : Spaces w)
      (h : Entries entries t) : w ++ ['\x7d'] ≠ t ++ ['\x7d'] := by
    obtain ⟨v, u, hv, rfl⟩ := h.exists_begin
    intro htext
    rw [List.append_assoc] at htext
    obtain ⟨-, hbrace⟩ := hw.append_inj hv ⟨_, _, rfl, rfl⟩ ⟨_, _, rfl, rfl⟩ htext
    cases hbrace
  generalize htext : t = u at h'
  cases h with
  | empty hw =>
    cases h' with
    | empty _ => rfl
    | entries h' => exact (hmixed hw h' (List.cons.inj htext).2).elim
  | entries h =>
    cases h' with
    | empty hw => exact (hmixed hw h (List.cons.inj htext).2.symm).elim
    | entries h' => exact h.unique h' (List.cons.inj htext).2

end Uniqueness

end ParamDoc.Json
