import ParamDoc.Json.Skip
import ParamDoc.Proofs.Json.Grammar
import Mathlib.Tactic.SplitIfs

/-!
# Numbers that are passed over

A number has no closing mark: it is over when the next character does not belong to it. The parts
that the reader distinguishes are described by what has been read when it is in them.
-/

namespace ParamDoc.Json

theorem Digits.singleton {c : Char} (h : c.isDigit = true) : Digits [c] := by
  refine ⟨List.cons_ne_nil _ _, ?_⟩
  intro d hd
  rw [List.mem_singleton] at hd
  rw [hd]
  exact h

theorem forall_isDigit_concat {t : List Char} {c : Char} (ht : ∀ d ∈ t, d.isDigit = true)
    (hc : c.isDigit = true) : ∀ d ∈ t ++ [c], d.isDigit = true := by
  intro d hd
  rcases List.mem_append.mp hd with hd | hd
  · exact ht d hd
  · rw [List.mem_singleton.mp hd]
    exact hc

theorem Digits.concat {t : List Char} {c : Char} (ht : Digits t) (hc : c.isDigit = true) :
    Digits (t ++ [c]) :=
  ⟨List.concat_ne_nil c t, forall_isDigit_concat ht.2 hc⟩

/-- What may stand before the digits of a whole number. -/
theorem integral_of_sign {sign t : List Char} (hsign : sign = [] ∨ sign = ['-']) (ht : Whole t) :
    Integral (sign ++ t) := by
  rcases hsign with rfl | rfl
  · exact .positive ht
  · exact .negative ht

theorem exponent_of_sign {mark : Char} {sign t : List Char} (hmark : mark = 'e' ∨ mark = 'E')
    (hsign : sign = [] ∨ sign = ['+'] ∨ sign = ['-']) (ht : Digits t) :
    Exponent (mark :: (sign ++ t)) := by
  rcases hsign with rfl | rfl | rfl
  · exact .digits hmark ht
  · exact .signed hmark (.inl rfl) ht
  · exact .signed hmark (.inr rfl) ht

namespace NumberPart

/-- The text begins a number, and ends in the given part of it. -/
inductive ReadFrom : NumberPart → List Char → Prop
  | minus : ReadFrom .minus ['-']
  | zero {sign : List Char} : sign = [] ∨ sign = ['-'] → ReadFrom .zero (sign ++ ['0'])
  | whole {sign t : List Char} {c : Char} : sign = [] ∨ sign = ['-'] → c.isDigit = true →
      c ≠ '0' → (∀ d ∈ t, d.isDigit = true) → ReadFrom .whole (sign ++ c :: t)
  | point {w : List Char} : Integral w → ReadFrom .point (w ++ ['.'])
  | fraction {w t : List Char} : Integral w → Digits t → ReadFrom .fraction (w ++ '.' :: t)
  | mark {w f : List Char} {c : Char} : Integral w → Fraction f → c = 'e' ∨ c = 'E' →
      ReadFrom .mark (w ++ f ++ [c])
  | sign {w f : List Char} {c s : Char} : Integral w → Fraction f → c = 'e' ∨ c = 'E' →
      s = '+' ∨ s = '-' → ReadFrom .sign (w ++ f ++ [c, s])
  | exponent {w f sign t : List Char} {c : Char} : Integral w → Fraction f → c = 'e' ∨ c = 'E' →
      sign = [] ∨ sign = ['+'] ∨ sign = ['-'] → Digits t →
      ReadFrom .exponent (w ++ f ++ c :: (sign ++ t))

theorem ReadFrom.integral {p : NumberPart} {t : List Char} (h : ReadFrom p t)
    (hp : p = .zero ∨ p = .whole) : Integral t := by
  cases h with
  | zero hsign => exact integral_of_sign hsign .zero
  | whole hsign hc hne ht => exact integral_of_sign hsign (.digits hc hne ht)
  | _ => simp at hp

theorem ReadFrom.beforeMark {p : NumberPart} {t : List Char} (h : ReadFrom p t)
    (hp : p = .zero ∨ p = .whole ∨ p = .fraction) :
    ∃ w f, Integral w ∧ Fraction f ∧ t = w ++ f := by
  rcases hp with hp | hp | hp
  · exact ⟨t, [], h.integral (.inl hp), .absent, (List.append_nil t).symm⟩
  · exact ⟨t, [], h.integral (.inr hp), .absent, (List.append_nil t).symm⟩
  · subst hp
    cases h with
    | fraction hw ht => exact ⟨_, _, hw, .digits ht, rfl⟩

theorem ReadFrom.number {p : NumberPart} {t : List Char} (h : ReadFrom p t)
    (hlast : p.isLast = true) : Number t := by
  have hbefore (hp : p = .zero ∨ p = .whole ∨ p = .fraction) : Number t := by
    obtain ⟨w, f, hw, hf, ht⟩ := h.beforeMark hp
    refine ⟨w, f, [], hw, hf, .absent, ?_⟩
    rw [ht, List.append_nil]
  cases p with
  | zero => exact hbefore (.inl rfl)
  | whole => exact hbefore (.inr (.inl rfl))
  | fraction => exact hbefore (.inr (.inr rfl))
  | exponent =>
    cases h with
    | exponent hw hf hmark hsign ht =>
      exact ⟨_, _, _, hw, hf, exponent_of_sign hmark hsign ht, rfl⟩
  | _ => simp [isLast] at hlast

theorem ReadFrom.number_of_endsBefore {p : NumberPart} {t : List Char} {c : Char}
    (h : ReadFrom p t) (hends : p.endsBefore c = true) : Number t := by
  unfold endsBefore at hends
  rw [Bool.and_eq_true, Bool.and_eq_true] at hends
  exact h.number hends.1.1

theorem ReadFrom.marked {p : NumberPart} {t : List Char} {c : Char} (h : ReadFrom p t)
    (hp : p = .zero ∨ p = .whole ∨ p = .fraction) (hc : c = 'e' ∨ c = 'E') :
    ReadFrom .mark (t ++ [c]) := by
  obtain ⟨w, f, hw, hf, ht⟩ := h.beforeMark hp
  rw [ht]
  exact .mark hw hf hc

section Next

variable {q : NumberPart} {t : List Char} {c : Char}

theorem ReadFrom.next_minus (h : ReadFrom .minus t) (hnext : next? .minus c = some q) :
    ReadFrom q (t ++ [c]) := by
  cases h
  simp only [next?] at hnext
  split_ifs at hnext with hzero hdigit
  · cases hnext
    rw [hzero]
    exact .zero (.inr rfl)
  · cases hnext
    exact .whole (.inr rfl) hdigit hzero (by simp)

theorem ReadFrom.next_zero (h : ReadFrom .zero t) (hnext : next? .zero c = some q) :
    ReadFrom q (t ++ [c]) := by
  simp only [next?] at hnext
  split_ifs at hnext with hpoint hmark
  · cases hnext
    rw [hpoint]
    exact .point (h.integral (.inl rfl))
  · cases hnext
    exact h.marked (.inl rfl) hmark

theorem ReadFrom.next_whole (h : ReadFrom .whole t) (hnext : next? .whole c = some q) :
    ReadFrom q (t ++ [c]) := by
  simp only [next?] at hnext
  split_ifs at hnext with hdigit hpoint hmark
  · cases hnext
    cases h with
    | whole hsign hd hne ht =>
      rw [List.append_assoc, List.cons_append]
      exact .whole hsign hd hne (forall_isDigit_concat ht hdigit)
  · cases hnext
    rw [hpoint]
    exact .point (h.integral (.inr rfl))
  · cases hnext
    exact h.marked (.inr (.inl rfl)) hmark

theorem ReadFrom.next_point (h : ReadFrom .point t) (hnext : next? .point c = some q) :
    ReadFrom q (t ++ [c]) := by
  simp only [next?] at hnext
  split_ifs at hnext with hdigit
  cases hnext
  cases h with
  | point hw =>
    rw [List.append_assoc]
    exact .fraction hw (.singleton hdigit)

theorem ReadFrom.next_fraction (h : ReadFrom .fraction t) (hnext : next? .fraction c = some q) :
    ReadFrom q (t ++ [c]) := by
  simp only [next?] at hnext
  split_ifs at hnext with hdigit hmark
  · cases hnext
    cases h with
    | fraction hw ht =>
      rw [List.append_assoc]
      exact .fraction hw (ht.concat hdigit)
  · cases hnext
    exact h.marked (.inr (.inr rfl)) hmark

theorem ReadFrom.next_mark (h : ReadFrom .mark t) (hnext : next? .mark c = some q) :
    ReadFrom q (t ++ [c]) := by
  simp only [next?] at hnext
  cases h with
  | mark hw hf hmark =>
    rw [List.append_assoc]
    split_ifs at hnext with hsign hdigit
    · cases hnext
      exact .sign hw hf hmark hsign
    · cases hnext
      exact .exponent hw hf hmark (.inl rfl) (.singleton hdigit)

theorem ReadFrom.next_sign (h : ReadFrom .sign t) (hnext : next? .sign c = some q) :
    ReadFrom q (t ++ [c]) := by
  simp only [next?] at hnext
  split_ifs at hnext with hdigit
  cases hnext
  cases h with
  | @sign w f m s hw hf hmark hsign =>
    have hsigns : [s] = [] ∨ [s] = ['+'] ∨ [s] = ['-'] := by
      rcases hsign with rfl | rfl
      · exact .inr (.inl rfl)
      · exact .inr (.inr rfl)
    rw [List.append_assoc]
    exact .exponent hw hf hmark hsigns (.singleton hdigit)

theorem ReadFrom.next_exponent (h : ReadFrom .exponent t) (hnext : next? .exponent c = some q) :
    ReadFrom q (t ++ [c]) := by
  simp only [next?] at hnext
  split_ifs at hnext with hdigit
  cases hnext
  cases h with
  | @exponent w f sign t m hw hf hmark hsign ht =>
    have htext : w ++ f ++ m :: (sign ++ t) ++ [c] = w ++ f ++ m :: (sign ++ (t ++ [c])) := by
      simp
    rw [htext]
    exact .exponent hw hf hmark hsign (ht.concat hdigit)

theorem ReadFrom.next {p : NumberPart} (h : ReadFrom p t) (hnext : p.next? c = some q) :
    ReadFrom q (t ++ [c]) := by
  cases p with
  | minus => exact h.next_minus hnext
  | zero => exact h.next_zero hnext
  | whole => exact h.next_whole hnext
  | point => exact h.next_point hnext
  | fraction => exact h.next_fraction hnext
  | mark => exact h.next_mark hnext
  | sign => exact h.next_sign hnext
  | exponent => exact h.next_exponent hnext

end Next

def run? (p : NumberPart) (t : List Char) : Option NumberPart :=
  t.foldlM next? p

theorem run?_append (p : NumberPart) (t u : List Char) :
    p.run? (t ++ u) = (p.run? t).bind fun q => q.run? u := by
  unfold run?
  rw [List.foldlM_append]
  rfl

theorem run?_cons (p : NumberPart) (c : Char) (t : List Char) :
    p.run? (c :: t) = (p.next? c).bind fun q => q.run? t := by
  unfold run?
  rw [List.foldlM_cons]
  rfl

theorem run?_digits {p : NumberPart} {t : List Char}
    (hp : ∀ c, c.isDigit = true → p.next? c = some p) (ht : ∀ c ∈ t, c.isDigit = true) :
    p.run? t = some p := by
  induction t with
  | nil => rfl
  | cons c t ih =>
    have hc := ht c List.mem_cons_self
    have hrest := ih fun d hd => ht d (List.mem_cons_of_mem c hd)
    rw [run?_cons, hp c hc, Option.bind_some, hrest]

theorem next?_whole {c : Char} (h : c.isDigit = true) : whole.next? c = some whole := by
  simp [next?, h]

theorem next?_fraction {c : Char} (h : c.isDigit = true) : fraction.next? c = some fraction := by
  simp [next?, h]

theorem next?_exponent {c : Char} (h : c.isDigit = true) : exponent.next? c = some exponent := by
  simp [next?, h]

/-- A whole number is read as it is after a minus sign. -/
theorem exists_run?_whole {t : List Char} (h : Whole t) :
    ∃ c u p, t = c :: u ∧ minus.next? c = some p ∧ p.run? u = some p ∧
      (p = .zero ∨ p = .whole) := by
  cases h with
  | zero => exact ⟨'0', [], .zero, rfl, rfl, rfl, .inl rfl⟩
  | @digits c u hc hne hu =>
    have hnext : minus.next? c = some .whole := by simp [next?, hne, hc]
    exact ⟨c, u, .whole, rfl, hnext, run?_digits (fun _ => next?_whole) hu, .inr rfl⟩

theorem exists_run?_fraction {t : List Char} (h : Fraction t) {p : NumberPart}
    (hp : p = .zero ∨ p = .whole) :
    ∃ q, p.run? t = some q ∧ (q = .zero ∨ q = .whole ∨ q = .fraction) := by
  cases h with
  | absent =>
    refine ⟨p, rfl, ?_⟩
    rcases hp with hp | hp
    · exact .inl hp
    · exact .inr (.inl hp)
  | @digits t ht =>
    have hpoint : p.next? '.' = some .point := by
      rcases hp with rfl | rfl <;> rfl
    obtain ⟨hne, hdigits⟩ := ht
    cases t with
    | nil => exact absurd rfl hne
    | cons c t =>
      have hc := hdigits c List.mem_cons_self
      have hnext : point.next? c = some .fraction := by simp [next?, hc]
      have hrest := run?_digits (fun _ => next?_fraction) fun d hd =>
        hdigits d (List.mem_cons_of_mem c hd)
      refine ⟨.fraction, ?_, .inr (.inr rfl)⟩
      rw [run?_cons, hpoint, Option.bind_some, run?_cons, hnext, Option.bind_some, hrest]

theorem run?_exponentDigits {p : NumberPart} {t : List Char} (hp : p = .mark ∨ p = .sign)
    (h : Digits t) : p.run? t = some .exponent := by
  obtain ⟨hne, hdigits⟩ := h
  cases t with
  | nil => exact absurd rfl hne
  | cons c t =>
    have hc := hdigits c List.mem_cons_self
    have hplus : c ≠ '+' := by
      rintro rfl
      exact absurd hc (by decide)
    have hminus : c ≠ '-' := by
      rintro rfl
      exact absurd hc (by decide)
    have hnext : p.next? c = some .exponent := by
      rcases hp with rfl | rfl
      · simp [next?, hc, hplus, hminus]
      · simp [next?, hc]
    have hrest := run?_digits (fun _ => next?_exponent) fun d hd =>
      hdigits d (List.mem_cons_of_mem c hd)
    rw [run?_cons, hnext, Option.bind_some, hrest]

theorem next?_mark {p : NumberPart} {c : Char} (hp : p = .zero ∨ p = .whole ∨ p = .fraction)
    (hc : c = 'e' ∨ c = 'E') : p.next? c = some .mark := by
  rcases hp with rfl | rfl | rfl <;> rcases hc with rfl | rfl <;> rfl

theorem exists_run?_exponent {t : List Char} (h : Exponent t) {p : NumberPart}
    (hp : p = .zero ∨ p = .whole ∨ p = .fraction) :
    ∃ q, p.run? t = some q ∧ q.isLast = true := by
  cases h with
  | absent =>
    refine ⟨p, rfl, ?_⟩
    rcases hp with rfl | rfl | rfl <;> rfl
  | digits hmark ht =>
    refine ⟨.exponent, ?_, rfl⟩
    rw [run?_cons, next?_mark hp hmark, Option.bind_some, run?_exponentDigits (.inl rfl) ht]
  | @signed mark sign t hmark hsign ht =>
    have hnext : NumberPart.mark.next? sign = some .sign := by
      rcases hsign with rfl | rfl <;> rfl
    refine ⟨.exponent, ?_, rfl⟩
    rw [run?_cons, next?_mark hp hmark, Option.bind_some, run?_cons, hnext, Option.bind_some,
      run?_exponentDigits (.inr rfl) ht]

theorem exists_run?_afterWhole {f e : List Char} {p : NumberPart} (hp : p = .zero ∨ p = .whole)
    (hf : Fraction f) (he : Exponent e) : ∃ q, p.run? (f ++ e) = some q ∧ q.isLast = true := by
  obtain ⟨q, hq, hlast⟩ := exists_run?_fraction hf hp
  obtain ⟨r, hr, hend⟩ := exists_run?_exponent he hlast
  refine ⟨r, ?_, hend⟩
  rw [run?_append, hq, Option.bind_some, hr]

/-- A whole number, fraction and exponent after a minus sign, or without one. -/
theorem exists_run?_unsigned {w f e : List Char} (hw : Whole w) (hf : Fraction f)
    (he : Exponent e) : ∃ c t p q, w ++ f ++ e = c :: t ∧ minus.next? c = some p ∧
      p.run? t = some q ∧ q.isLast = true := by
  obtain ⟨c, u, p, rfl, hfirst, hu, hp⟩ := exists_run?_whole hw
  obtain ⟨q, hq, hlast⟩ := exists_run?_afterWhole hp hf he
  refine ⟨c, u ++ (f ++ e), p, q, ?_, hfirst, ?_, hlast⟩
  · rw [List.append_assoc, List.cons_append]
  · rw [run?_append, hu, Option.bind_some, hq]

end NumberPart

open NumberPart in
theorem Skip.begin?_of_next?_minus {c : Char} {p : NumberPart} (h : minus.next? c = some p)
    (brackets : List Bracket) : Skip.begin? brackets c = some ⟨.number p, brackets⟩ := by
  simp only [next?] at h
  split_ifs at h with hzero hdigit
  · cases h
    rw [hzero]
    rfl
  · cases h
    -- no other character that may begin a value is a digit
    unfold Skip.begin?
    split <;> first
      | rw [if_pos hdigit]
      | exact absurd rfl hzero
      | exact absurd hdigit (by decide)

open NumberPart in
theorem Number.exists_run? {t : List Char} (h : Number t) (brackets : List Bracket) :
    ∃ c u p q, t = c :: u ∧ Skip.begin? brackets c = some ⟨.number p, brackets⟩ ∧
      p.run? u = some q ∧ q.isLast = true := by
  obtain ⟨w, f, e, hw, hf, he, rfl⟩ := h
  cases hw with
  | positive hw =>
    obtain ⟨c, u, p, q, ht, hfirst, hrun, hlast⟩ := exists_run?_unsigned hw hf he
    exact ⟨c, u, p, q, ht, Skip.begin?_of_next?_minus hfirst brackets, hrun, hlast⟩
  | @negative w hw =>
    obtain ⟨c, u, p, q, ht, hfirst, hrun, hlast⟩ := exists_run?_unsigned hw hf he
    refine ⟨'-', w ++ f ++ e, .minus, q, rfl, rfl, ?_, hlast⟩
    rw [ht, run?_cons, hfirst, Option.bind_some, hrun]

end ParamDoc.Json
