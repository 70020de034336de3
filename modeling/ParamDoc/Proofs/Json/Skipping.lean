import ParamDoc.Proofs.Json.Numbers
import ParamDoc.Proofs.Json.Spelling

/-!
# What is passed over

The reader passes over every well-formed value to its end, and over nothing else. A number ends
where the next character does not belong to it; any other value has a last character of its own.
-/

namespace ParamDoc.Json

/-- What may stand directly after a value in brackets. -/
def IsSeparator (c : Char) : Prop :=
  isSpace c = true ∨ c = ',' ∨ c = ']' ∨ c = '\x7d'

theorem NumberPart.endsBefore_of_isSeparator {p : NumberPart} {c : Char} (hp : p.isLast = true)
    (hc : IsSeparator c) : p.next? c = none ∧ p.endsBefore c = true := by
  simp only [IsSeparator, isSpace_eq_true_iff, spaces, List.mem_cons, List.not_mem_nil,
    or_false] at hc
  cases p with
  | zero | whole | fraction | exponent =>
    rcases hc with (rfl | rfl | rfl | rfl) | rfl | rfl | rfl <;> exact ⟨rfl, rfl⟩
  | _ => simp [isLast] at hp

namespace Skip

section Complete

/-- A value in brackets has been read, up to a number that may go on. -/
inductive Ended (brackets : List Bracket) : Skip → Prop
  | after : Ended brackets ⟨.after, brackets⟩
  | number {p : NumberPart} : p.isLast = true → Ended brackets ⟨.number p, brackets⟩

/-- The text is read to the end of a value in the given brackets. -/
def Takes (s : Skip) (brackets : List Bracket) (t : List Char) : Prop :=
  (∃ p, p.isLast = true ∧ Step.run? step s t = some ⟨.number p, brackets⟩) ∨
    ∃ u c last, t = u ++ [c] ∧ Step.run? step s u = some last ∧ last.step c = close brackets

theorem Ended.step {s : Skip} {brackets : List Bracket} {c : Char} (h : Ended brackets s)
    (hc : IsSeparator c) : s.step c = afterStep c brackets := by
  cases h with
  | after => rfl
  | number hp =>
    obtain ⟨hnext, hends⟩ := NumberPart.endsBefore_of_isSeparator hp hc
    simp only [Skip.step, hnext, hends, ↓reduceIte]

theorem Takes.ended {s : Skip} {b : Bracket} {bs : List Bracket} {t : List Char}
    (h : s.Takes (b :: bs) t) :
    ∃ last, Step.run? Skip.step s t = some last ∧ Ended (b :: bs) last := by
  rcases h with ⟨p, hp, hrun⟩ | ⟨u, c, last, rfl, hrun, hlast⟩
  · exact ⟨_, hrun, .number hp⟩
  · refine ⟨⟨.after, b :: bs⟩, ?_, .after⟩
    rw [Step.run?_append, hrun, Option.bind_some, Step.run?_singleton, hlast]
    rfl

theorem Takes.cons {s next : Skip} {brackets : List Bracket} {c : Char} {t : List Char}
    (h : next.Takes brackets t) (hc : s.step c = .more next) : s.Takes brackets (c :: t) := by
  have hrun (u : List Char) : Step.run? Skip.step s (c :: u) = Step.run? Skip.step next u := by
    rw [Step.run?_cons, hc]
    rfl
  rcases h with ⟨p, hp, h⟩ | ⟨u, d, last, rfl, h, hlast⟩
  · exact .inl ⟨p, hp, (hrun t).trans h⟩
  · exact .inr ⟨c :: u, d, last, rfl, (hrun u).trans h, hlast⟩

theorem takes_concat {s last : Skip} {brackets : List Bracket} {t : List Char} {c : Char}
    (h : Step.run? Skip.step s t = some last) (hc : last.step c = close brackets) :
    s.Takes brackets (t ++ [c]) :=
  .inr ⟨t, c, last, rfl, h, hc⟩

/-- Between tokens, where spaces change nothing. -/
def IsPause (s : Skip) : Prop :=
  match s.place, s.brackets with
  | .value, _ | .firstItem, _ | .firstKey, _ | .key, _ | .colon, _ | .after, _ :: _ => True
  | _, _ => False

theorem afterStep_space {b : Bracket} (bs : List Bracket) {c : Char} (hc : isSpace c = true) :
    afterStep c (b :: bs) = .more ⟨.after, b :: bs⟩ := by
  cases b <;> simp only [afterStep, hc, ↓reduceIte]

theorem IsPause.step {s : Skip} {c : Char} (h : s.IsPause) (hc : isSpace c = true) :
    s.step c = .more s := by
  obtain ⟨place, brackets⟩ := s
  cases place with
  | value | firstItem | firstKey | key | colon => simp only [Skip.step, hc, ↓reduceIte]
  | after =>
    cases brackets with
    | nil => exact False.elim h
    | cons b bs => exact afterStep_space bs hc
  | _ => exact False.elim h

theorem IsPause.run?_spaces {s : Skip} {w : List Char} (h : s.IsPause) (hw : Spaces w) :
    Step.run? Skip.step s w = some s := by
  induction w with
  | nil => rfl
  | cons c w ih =>
    have hc := hw.isSpace c List.mem_cons_self
    have hrest := ih fun d hd => hw d (List.mem_cons_of_mem c hd)
    rw [Step.run?_cons, h.step hc]
    exact hrest

theorem Ended.spaces {s : Skip} {b : Bracket} {bs : List Bracket} {w : List Char}
    (h : Ended (b :: bs) s) (hw : Spaces w) :
    ∃ last, Step.run? Skip.step s w = some last ∧ Ended (b :: bs) last := by
  cases w with
  | nil => exact ⟨s, rfl, h⟩
  | cons c w =>
    have hc := hw.isSpace c List.mem_cons_self
    have hrest : Step.run? Skip.step ⟨.after, b :: bs⟩ w = some ⟨.after, b :: bs⟩ :=
      IsPause.run?_spaces trivial fun d hd => hw d (List.mem_cons_of_mem c hd)
    refine ⟨⟨.after, b :: bs⟩, ?_, .after⟩
    rw [Step.run?_cons, h.step (.inl hc), afterStep_space bs hc]
    exact hrest

theorem of_begin?_eq_some {brackets : List Bracket} {c : Char} {next : Skip}
    (h : begin? brackets c = some next) : isSpace c = false ∧ c ≠ ']' := by
  constructor
  · rw [← Bool.not_eq_true, isSpace_eq_true_iff]
    simp only [spaces, List.mem_cons, List.not_mem_nil, or_false]
    rintro (rfl | rfl | rfl | rfl) <;> cases h
  · rintro rfl
    cases h

theorem step_begin {place : Place} (hplace : place = .value ∨ place = .firstItem)
    {brackets : List Bracket} {c : Char} {next : Skip} (h : begin? brackets c = some next) :
    Skip.step ⟨place, brackets⟩ c = .more next := by
  obtain ⟨hspace, hclose⟩ := of_begin?_eq_some h
  rcases hplace with rfl | rfl
  · simp only [Skip.step, beginStep, h, hspace, Bool.false_eq_true, ↓reduceIte]
  · simp only [Skip.step, beginStep, h, hspace, hclose, Bool.false_eq_true, ↓reduceIte]

theorem run?_number {p q : NumberPart} {t : List Char} (h : p.run? t = some q)
    (brackets : List Bracket) :
    Step.run? Skip.step ⟨.number p, brackets⟩ t = some ⟨.number q, brackets⟩ := by
  induction t generalizing p with
  | nil =>
    cases h
    rfl
  | cons c t ih =>
    rw [NumberPart.run?_cons] at h
    obtain ⟨next, hnext, hrest⟩ := Option.bind_eq_some_iff.mp h
    rw [Step.run?_cons]
    simp only [Skip.step, hnext]
    exact ih hrest

section Strings

variable (isKey : Bool) (brackets : List Bracket)

theorem run?_hexDigits {t : List Char} {left : Nat} (hlength : t.length = left + 1)
    (ht : ∀ c ∈ t, (Text.hexValue? c).isSome = true) :
    Step.run? Skip.step ⟨.string isKey (.digits left), brackets⟩ t =
      some ⟨.string isKey .none, brackets⟩ := by
  induction t generalizing left with
  | nil => simp at hlength
  | cons c t ih =>
    have hc : (Text.hexValue? c).isNone = false := by
      rw [← Option.not_isSome, ht c List.mem_cons_self]
      rfl
    have hrest : ∀ d ∈ t, (Text.hexValue? d).isSome = true := fun d hd =>
      ht d (List.mem_cons_of_mem c hd)
    rw [List.length_cons] at hlength
    rw [Step.run?_cons]
    simp only [Skip.step, stringStep, hc, Bool.false_eq_true, ↓reduceIte]
    cases left with
    | zero =>
      have hnil : t = [] := List.length_eq_zero_iff.mp (by omega)
      rw [hnil]
      rfl
    | succ left => exact ih (by omega) hrest

theorem run?_skippedChar {t : List Char} (h : SkippedChar t) :
    Step.run? Skip.step ⟨.string isKey .none, brackets⟩ t =
      some ⟨.string isKey .none, brackets⟩ := by
  cases h with
  | @plain c hplain =>
    obtain ⟨hquote, hbackslash, hcontrol⟩ := hplain
    simp [Step.run?_cons, Skip.step, stringStep, hquote, hbackslash, hcontrol, Step.next?]
  | @escape c d hc =>
    have hu : c ≠ 'u' := by
      rintro rfl
      simp [escapes] at hc
    simp [Step.run?_cons, Skip.step, stringStep, hu, escaped?_eq_some_iff.mpr hc, Step.next?]
  | digits hlength ht =>
    exact run?_hexDigits isKey brackets hlength fun c hc => isSome_hexValue?_iff.mpr (ht c hc)

theorem run?_skippedText {t : List Char} (h : SkippedText t) :
    Step.run? Skip.step ⟨.string isKey .none, brackets⟩ t =
      some ⟨.string isKey .none, brackets⟩ := by
  induction h with
  | nil => rfl
  | snoc _ hs ih => rw [Step.run?_append, ih, Option.bind_some, run?_skippedChar _ _ hs]

end Strings

/-- How a reader passes over a part of a text. A list may be at its first item or at a later one,
and an object at its first key or at a later one. -/
def Passes : Part → List Char → Prop
  | .value, t => ∀ brackets place, place = .value ∨ place = .firstItem →
    Takes ⟨place, brackets⟩ brackets t
  | .items, t => ∀ brackets place, place = .value ∨ place = .firstItem →
    ∃ last, Step.run? Skip.step ⟨place, .list :: brackets⟩ t = some last ∧
      Ended (.list :: brackets) last
  | .entries, t => ∀ brackets place, place = .key ∨ place = .firstKey →
    ∃ last, Step.run? Skip.step ⟨place, .object :: brackets⟩ t = some last ∧
      Ended (.object :: brackets) last

theorem passes_word {t : List Char} (h : t ∈ [['n', 'u', 'l', 'l'], ['t', 'r', 'u', 'e'],
    ['f', 'a', 'l', 's', 'e']]) : Passes .value t := by
  intro brackets place hplace
  simp only [List.mem_cons, List.not_mem_nil, or_false] at h
  rcases h with rfl | rfl | rfl
  · exact (takes_concat (t := ['u', 'l']) rfl rfl).cons (step_begin hplace rfl)
  · exact (takes_concat (t := ['r', 'u']) rfl rfl).cons (step_begin hplace rfl)
  · exact (takes_concat (t := ['a', 'l', 's']) rfl rfl).cons (step_begin hplace rfl)

theorem passes_number {t : List Char} (h : Number t) : Passes .value t := by
  intro brackets place hplace
  obtain ⟨c, u, p, q, rfl, hbegin, hrun, hlast⟩ := h.exists_run? brackets
  have hu : Takes ⟨.number p, brackets⟩ brackets u := .inl ⟨q, hlast, run?_number hrun brackets⟩
  exact hu.cons (step_begin hplace hbegin)

theorem passes_string {t : List Char} (h : SkippedText t) : Passes .value ('"' :: t ++ ['"']) := by
  intro brackets place hplace
  have ht := run?_skippedText false brackets h
  exact (takes_concat ht rfl).cons (step_begin hplace rfl)

theorem passes_emptyList {w : List Char} (h : Spaces w) : Passes .value ('[' :: w ++ [']']) := by
  intro brackets place hplace
  have hw : Step.run? Skip.step ⟨.firstItem, .list :: brackets⟩ w =
      some ⟨.firstItem, .list :: brackets⟩ :=
    IsPause.run?_spaces trivial h
  exact (takes_concat hw rfl).cons (step_begin hplace rfl)

theorem passes_list {t : List Char} (h : Passes .items t) : Passes .value ('[' :: t ++ [']']) := by
  intro brackets place hplace
  obtain ⟨last, hrun, hlast⟩ := h brackets .firstItem (.inr rfl)
  have hclose : last.step ']' = close brackets := hlast.step (.inr (.inr (.inl rfl)))
  exact (takes_concat hrun hclose).cons (step_begin hplace rfl)

theorem passes_emptyObject {w : List Char} (h : Spaces w) :
    Passes .value ('\x7b' :: w ++ ['\x7d']) := by
  intro brackets place hplace
  have hw : Step.run? Skip.step ⟨.firstKey, .object :: brackets⟩ w =
      some ⟨.firstKey, .object :: brackets⟩ :=
    IsPause.run?_spaces trivial h
  exact (takes_concat hw rfl).cons (step_begin hplace rfl)

theorem passes_object {t : List Char} (h : Passes .entries t) :
    Passes .value ('\x7b' :: t ++ ['\x7d']) := by
  intro brackets place hplace
  obtain ⟨last, hrun, hlast⟩ := h brackets .firstKey (.inr rfl)
  have hclose : last.step '\x7d' = close brackets := hlast.step (.inr (.inr (.inr rfl)))
  exact (takes_concat hrun hclose).cons (step_begin hplace rfl)

theorem passes_item {a t b : List Char} (ha : Spaces a) (ht : Passes .value t) (hb : Spaces b) :
    Passes .items (a ++ t ++ b) := by
  intro brackets place hplace
  have hspaces : Step.run? Skip.step ⟨place, .list :: brackets⟩ a =
      some ⟨place, .list :: brackets⟩ := by
    rcases hplace with rfl | rfl <;> exact IsPause.run?_spaces trivial ha
  obtain ⟨mid, hmid, hended⟩ := (ht (.list :: brackets) place hplace).ended
  obtain ⟨last, hlast, hend⟩ := hended.spaces hb
  refine ⟨last, ?_, hend⟩
  rw [List.append_assoc, Step.run?_append, hspaces, Option.bind_some, Step.run?_append, hmid,
    Option.bind_some, hlast]

theorem passes_items {s t : List Char} (hs : Passes .items s) (ht : Passes .items t) :
    Passes .items (s ++ ',' :: t) := by
  intro brackets place hplace
  obtain ⟨mid, hmid, hended⟩ := hs brackets place hplace
  obtain ⟨last, hlast, hend⟩ := ht brackets .value (.inl rfl)
  have hcomma : mid.step ',' = .more ⟨.value, .list :: brackets⟩ := hended.step (.inr (.inl rfl))
  refine ⟨last, ?_, hend⟩
  rw [Step.run?_append, hmid, Option.bind_some, Step.run?_cons, hcomma]
  exact hlast

theorem passes_entries {s t : List Char} (hs : Passes .entries s) (ht : Passes .entries t) :
    Passes .entries (s ++ ',' :: t) := by
  intro brackets place hplace
  obtain ⟨mid, hmid, hended⟩ := hs brackets place hplace
  obtain ⟨last, hlast, hend⟩ := ht brackets .key (.inl rfl)
  have hcomma : mid.step ',' = .more ⟨.key, .object :: brackets⟩ := hended.step (.inr (.inl rfl))
  refine ⟨last, ?_, hend⟩
  rw [Step.run?_append, hmid, Option.bind_some, Step.run?_cons, hcomma]
  exact hlast

theorem passes_entry {a k b c t d : List Char} (ha : Spaces a) (hk : SkippedText k) (hb : Spaces b)
    (hc : Spaces c) (ht : Passes .value t) (hd : Spaces d) :
    Passes .entries (a ++ '"' :: k ++ '"' :: b ++ ':' :: c ++ t ++ d) := by
  intro brackets place hplace
  have hspaces : Step.run? Skip.step ⟨place, .object :: brackets⟩ a =
      some ⟨place, .object :: brackets⟩ := by
    rcases hplace with rfl | rfl <;> exact IsPause.run?_spaces trivial ha
  have hquote : Skip.step ⟨place, .object :: brackets⟩ '"' =
      .more ⟨.string true .none, .object :: brackets⟩ := by
    rcases hplace with rfl | rfl <;> rfl
  have hkey := run?_skippedText true (.object :: brackets) hk
  have hcolon : Step.run? Skip.step ⟨.colon, .object :: brackets⟩ b =
      some ⟨.colon, .object :: brackets⟩ :=
    IsPause.run?_spaces trivial hb
  have hvalue : Step.run? Skip.step ⟨.value, .object :: brackets⟩ c =
      some ⟨.value, .object :: brackets⟩ :=
    IsPause.run?_spaces trivial hc
  obtain ⟨mid, hmid, hended⟩ := (ht (.object :: brackets) .value (.inl rfl)).ended
  obtain ⟨last, hlast, hend⟩ := hended.spaces hd
  have hkeyEnd : Skip.step ⟨.string true .none, .object :: brackets⟩ '"' =
      .more ⟨.colon, .object :: brackets⟩ := rfl
  have hcolonEnd : Skip.step ⟨.colon, .object :: brackets⟩ ':' =
      .more ⟨.value, .object :: brackets⟩ := rfl
  refine ⟨last, ?_, hend⟩
  simp only [Step.run?_append, Step.run?_cons, hspaces, hquote, hkey, hkeyEnd, hcolon, hcolonEnd,
    hvalue, hmid, hlast, Step.next?, Option.bind_some]

theorem passes_of_wellFormed {part : Part} {t : List Char} (h : WellFormed part t) :
    Passes part t := by
  induction h with
  | word h => exact passes_word h
  | number h => exact passes_number h
  | string h => exact passes_string h
  | emptyList h => exact passes_emptyList h
  | list _ ih => exact passes_list ih
  | emptyObject h => exact passes_emptyObject h
  | object _ ih => exact passes_object ih
  | item ha _ hb ih => exact passes_item ha ih hb
  | items _ _ ihs iht => exact passes_items ihs iht
  | entry ha hk hb hc _ hd ih => exact passes_entry ha hk hb hc ih hd
  | entries _ _ ihs iht => exact passes_entries ihs iht

/-- A character that a number ends before is not read with it. -/
theorem endsBefore_eq_false {v : Skip} {c : Char} (h : v.step c ≠ .refused) :
    v.endsBefore c = false := by
  rw [← Bool.not_eq_true]
  intro hends
  apply h
  obtain ⟨place, brackets⟩ := v
  unfold endsBefore at hends
  split at hends
  · next p heq =>
    cases heq
    have hnext : p.next? c = none := by
      unfold NumberPart.endsBefore at hends
      rw [Bool.and_eq_true, Bool.and_eq_true, Option.isNone_iff_eq_none] at hends
      exact hends.1.2
    simp only [Skip.step, hnext, hends, ↓reduceIte]
    rfl
  · cases hends

end Complete

end Skip

theorem WellFormed.exists_begin {t : List Char} (h : WellFormed .value t) :
    ∃ c u, t = c :: u ∧ isSpace c = false := by
  cases h with
  | word hword =>
    simp only [List.mem_cons, List.not_mem_nil, or_false] at hword
    rcases hword with rfl | rfl | rfl <;> exact ⟨_, _, rfl, rfl⟩
  | number hnumber =>
    obtain ⟨c, u, p, q, rfl, hbegin, -, -⟩ := hnumber.exists_run? []
    exact ⟨c, u, rfl, (Skip.of_begin?_eq_some hbegin).1⟩
  | string _ | emptyList _ | list _ | emptyObject _ | object _ => exact ⟨_, _, rfl, rfl⟩

/-- The first character of a text that is no space is that of its outermost value. -/
theorem WellFormed.head?_dropWhile {a t : List Char} (h : WellFormed .value t) (ha : Spaces a)
    (b : List Char) : ((a ++ t ++ b).dropWhile isSpace).head? = t.head? := by
  obtain ⟨c, u, rfl, hc⟩ := h.exists_begin
  rw [List.append_assoc, List.dropWhile_append_of_pos ha.isSpace, List.cons_append,
    List.dropWhile_cons_of_neg (by simp [hc])]
  rfl

end ParamDoc.Json
